import Recon.Text.Decimal

/-! Binary floating-point numbers of 64 bits, as bits with exact rational meaning. `nearest` rounds a
quotient of natural numbers, a half to the even neighbour; `shortest` finds the fewest digits that
round back to a number. -/
namespace Recon

/-- The bits of a double: sign, eleven exponent bits, fifty-two bits of fraction. -/
structure Binary64 where
  bits : UInt64
deriving DecidableEq, Repr, Inhabited

namespace Binary64

def zero : Binary64 := ⟨0⟩

def infinity : Binary64 := ⟨0x7FF0000000000000⟩

def nan : Binary64 := ⟨0x7FF8000000000000⟩

/-- Powers of two. -/
def twoTo (n : Nat) : Nat := Nat.pow 2 n

/-- Bits below the sign. -/
def magnitude (x : Binary64) : Nat := x.bits.toNat % twoTo 63

def isNegative (x : Binary64) : Bool := twoTo 63 ≤ x.bits.toNat

def isFinite (x : Binary64) : Bool := x.magnitude < infinity.bits.toNat

def neg (x : Binary64) : Binary64 := ⟨x.bits ^^^ 0x8000000000000000⟩

/-- Numerator and denominator of the absolute value of a finite number. -/
def ratio (x : Binary64) : Nat × Nat :=
  let e := x.magnitude / twoTo 52
  let f := x.magnitude % twoTo 52
  if e = 0 then (f,twoTo 1074)
  else if 1075 ≤ e then ((twoTo 52 + f) * twoTo (e - 1075),1)
  else (twoTo 52 + f,twoTo (1075 - e))

/-- `num / den` to the nearest whole number, a half to the even one. -/
def roundDiv (num den : Nat) : Nat :=
  let q := num / den
  let r := 2 * (num % den)
  if r < den || (r == den && q % 2 == 0) then q else q + 1

/-- The exponent that brings `num / den` to at least 2^52 and below 2^53, but not below the least one. -/
def exponentOf (num den : Nat) : Int :=
  let e : Int := (num.log2 : Int) - (den.log2 : Int) - 52
  let below := if 0 ≤ e then num < den * twoTo (e.toNat + 52) else num * twoTo (-e).toNat < den * twoTo 52
  max (if below then e - 1 else e) (-1074)

/-- The number nearest to `num / den`, infinity when that is too large. -/
def nearest (num den : Nat) : Binary64 :=
  if num = 0 then zero
  else
    let e := exponentOf num den
    let q := if 0 ≤ e then roundDiv num (den * twoTo e.toNat) else roundDiv (num * twoTo (-e).toNat) den
    let bits := (e + 1074).toNat * twoTo 52 + q
    if bits < infinity.bits.toNat then ⟨UInt64.ofNat bits⟩ else infinity

def ofNat (n : Nat) : Binary64 := nearest n 1

def ofInt (i : Int) : Binary64 := if i < 0 then (ofNat i.natAbs).neg else ofNat i.natAbs

/-- The number nearest to `digits * 10 ^ exponent`. -/
def ofDecimal (digits : Nat) (exponent : Int) : Binary64 :=
  if 0 ≤ exponent then nearest (digits * Text.tenTo exponent.toNat) 1
  else nearest digits (Text.tenTo (-exponent).toNat)

/-- Product of absolute values. -/
def mul (x y : Binary64) : Binary64 := nearest (x.ratio.1 * y.ratio.1) (x.ratio.2 * y.ratio.2)

/-- Quotient of absolute values. -/
def div (x y : Binary64) : Binary64 := nearest (x.ratio.1 * y.ratio.2) (x.ratio.2 * y.ratio.1)

/-- The least `k` from `k` on, within `fuel`, such that `num / den < 10 ^ k`. -/
def decimalPoint (num den : Nat) : Nat → Int → Int
  | 0,k => k
  | fuel + 1,k =>
    let below := if 0 ≤ k then num < den * Text.tenTo k.toNat else num * Text.tenTo (-k).toNat < den
    if below then k else decimalPoint num den fuel (k + 1)

/-- The neighbours of `num / den` on the grid of step `10 ^ e`, the nearer one first. -/
def neighbours (num den : Nat) (e : Int) : List Nat :=
  let n := if 0 ≤ e then num else num * Text.tenTo (-e).toNat
  let d := if 0 ≤ e then den * Text.tenTo e.toNat else den
  let q := n / d
  let r := n % d
  if 2 * r < d || (2 * r == d && q % 2 == 0) then [q,q + 1] else [q + 1,q]

/-- The first grid, from the coarsest on, with a neighbour that rounds back: its digits and exponent. -/
def shortestFrom (x : Binary64) (num den : Nat) (point : Int) : Nat → Nat → Nat × Int
  | 0,places => ((neighbours num den (point - places)).headD 0,point - places)
  | fuel + 1,places =>
    let e := point - places
    match (neighbours num den e).find? (fun q => ofDecimal q e == x) with
    | some q => (q,e)
    | none => shortestFrom x num den point fuel (places + 1)

/-- The fewest digits that round back to the absolute value, with the exponent of the last one. -/
def shortest (x : Binary64) : Nat × Int :=
  let (num,den) := x.ratio
  shortestFrom ⟨UInt64.ofNat x.magnitude⟩ num den (decimalPoint num den 640 (-325)) 16 1

/-- Drops zeros at the end of a number, raising the exponent. -/
def dropZeros : Nat → Nat → Int → Nat × Int
  | 0,n,e => (n,e)
  | fuel + 1,n,e => if n % 10 = 0 then dropZeros fuel (n / 10) (e + 1) else (n,e)

/-- Positional from 10^-5 up to 10^16, always with a point; otherwise with an exponent. -/
def text (x : Binary64) : List Char :=
  let sign := if x.isNegative then ['-'] else []
  if x.magnitude = 0 then sign ++ ['0','.','0']
  else
    let (n,e) := x.shortest
    let (n,e) := dropZeros 20 n e
    let digits := Text.decimal n
    let point : Int := digits.length + e
    sign ++
      if 0 ≤ e ∧ point ≤ 16 then digits ++ List.replicate e.toNat '0' ++ ['.','0']
      else if 0 < point ∧ point ≤ 16 then
        digits.take point.toNat ++ '.' :: digits.drop point.toNat
      else if -5 < point ∧ point ≤ 0 then
        ['0','.'] ++ List.replicate (-point).toNat '0' ++ digits
      else
        let exponent := point - 1
        let tail := if exponent < 0 then '-' :: Text.decimal (-exponent).toNat else Text.decimal exponent.toNat
        match digits with
        | [] => []
        | [d] => d :: 'e' :: tail
        | d :: ds => d :: '.' :: ds ++ 'e' :: tail

end Binary64
end Recon
