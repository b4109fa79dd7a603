import Recon.Value

/-! Numbers in a JSON text. Whole numbers of 64 bits are exact. Any other number is read in one pass:
its digits are gathered as long as they fit 64 bits, and the power of ten is applied by one rounded
product or quotient, so the last bit may differ from the nearest double. -/
namespace Recon.Json

/-- Greatest gathered significand. -/
def maxSignificand : Nat := UInt64.size - 1

/-- Gathers the digits of the whole part; once one does not fit, it and the rest only count. -/
def gatherWhole : Nat → Nat → List Char → Nat × Nat
  | sig,dropped,[] => (sig,dropped)
  | sig,dropped,c :: cs =>
    let next := sig * 10 + (c.toNat - 48)
    if dropped = 0 ∧ next ≤ maxSignificand then gatherWhole next 0 cs
    else gatherWhole sig (dropped + 1) cs

/-- Gathers the digits after the point; the first that does not fit ends it. -/
def gatherFraction : Nat → Nat → List Char → Nat × Nat
  | sig,used,[] => (sig,used)
  | sig,used,c :: cs =>
    let next := sig * 10 + (c.toNat - 48)
    if next ≤ maxSignificand then gatherFraction next (used + 1) cs else (sig,used)

/-- `f` times a power of ten, dividing by 10^308 as often as needed; `none` when it is too large. -/
def scale : Nat → Binary64 → Int → Option Binary64
  | 0,f,_ => some f
  | fuel + 1,f,e =>
    if e.natAbs ≤ 308 then
      if 0 ≤ e then
        let y := f.mul (Binary64.ofDecimal 1 e)
        if y.isFinite then some y else none
      else some (f.div (Binary64.ofDecimal 1 (-e)))
    else if f = .zero then some f
    else if 0 ≤ e then none
    else scale fuel (f.div (Binary64.ofDecimal 1 308)) (e + 308)

/-- A number with a fraction or an exponent. -/
def floatValue (negative : Bool) (sig : Nat) (e : Int) : Value :=
  match scale 4 (Binary64.ofNat sig) e with
  | none => .illegible
  | some x => .float (if negative then x.neg else x)

/-- Greatest exponent that is added up; a longer one only says very large or very small. -/
def maxExponent : Nat := 2147483647

/-- Applies a written exponent. -/
def withExponent (negative : Bool) (sig : Nat) (start : Int) (down : Bool) (digits : List Char) : Value :=
  let n := Text.digitsFrom 10 0 digits
  if maxExponent < n then
    if sig ≠ 0 ∧ !down then .illegible
    else .float (if negative then Binary64.zero.neg else .zero)
  else
    let e : Int := if down then start - n else start + n
    floatValue negative sig (max (-maxExponent - 1) (min e maxExponent))

/-- The exponent after `e`: its direction, its digits and the rest. -/
def exponentPart? (cs : List Char) : Option (Bool × List Char × List Char) :=
  let (down,cs) := match cs with
    | '+' :: cs => (false,cs)
    | '-' :: cs => (true,cs)
    | cs => (false,cs)
  let digits := cs.takeWhile Char.isDigit
  if digits.isEmpty then none else some (down,digits,cs.dropWhile Char.isDigit)

/-- Goes on after the significand. -/
def finish? (negative : Bool) (sig : Nat) (start : Int) (whole : Option Value) (cs : List Char) :
    Option (Value × List Char) :=
  match cs with
  | 'e' :: cs | 'E' :: cs =>
    (exponentPart? cs).map fun (down,digits,rest) => (withExponent negative sig start down digits,rest)
  | cs => some (whole.getD (floatValue negative sig start),cs)

/-- A number written without fraction and exponent, if it fits 64 bits. -/
def wholeValue? (negative : Bool) (sig dropped : Nat) : Option Value :=
  if dropped ≠ 0 then none
  else if !negative then some (.int sig)
  else if sig = 0 ∨ 9223372036854775808 < sig then some (.float (Binary64.ofNat sig).neg)
  else some (.int (-sig))

/-- The number at the start of a text and the rest, `none` when there is none. -/
def number? (cs : List Char) : Option (Value × List Char) :=
  let (negative,cs) := match cs with
    | '-' :: cs => (true,cs)
    | cs => (false,cs)
  let digits := cs.takeWhile Char.isDigit
  let rest := cs.dropWhile Char.isDigit
  if digits.isEmpty || (digits.head? == some '0' && 1 < digits.length) then none
  else
    let (sig,dropped) := gatherWhole 0 0 digits
    match rest with
    | '.' :: rest =>
      let fraction := rest.takeWhile Char.isDigit
      if fraction.isEmpty then none
      else
        let (sig,used) := gatherFraction sig 0 fraction
        finish? negative sig ((dropped : Int) - used) none (rest.dropWhile Char.isDigit)
    | rest => finish? negative sig dropped (wholeValue? negative sig dropped) rest

end Recon.Json
