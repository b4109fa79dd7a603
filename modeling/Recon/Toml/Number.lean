import Recon.Moment
import Recon.Toml.Lexeme
import Recon.Value

/-! Numbers, dates and times of day in a TOML text. -/
namespace Recon.Toml

/-- Digits of a class with single underscores between them: the digits and the rest. -/
def digits? (isDigit : Char → Bool) : List Char → Read (List Char)
  | [] => none
  | c :: cs => if isDigit c then some (more c cs) else none
where
  more (c : Char) : List Char → List Char × List Char
    | '_' :: d :: cs =>
      if isDigit d then ((c :: (more d cs).1),(more d cs).2) else ([c],'_' :: d :: cs)
    | d :: cs => if isDigit d then ((c :: (more d cs).1),(more d cs).2) else ([c],d :: cs)
    | [] => ([c],[])

/-- An underscore may only stand between digits. -/
def danglingUnderscore (rest : List Char) : Bool := rest.head? == some '_'

/-- A sign, and whether it is negative. -/
def sign : List Char → Bool × List Char
  | '+' :: cs => (false,cs)
  | '-' :: cs => (true,cs)
  | cs => (false,cs)

/-- A whole number with a sign; a zero in front stands alone. -/
def decimal? (cs : List Char) : Read (Bool × List Char) :=
  let (negative,cs) := sign cs
  match cs with
  | '0' :: cs => some ((negative,['0']),cs)
  | cs => (digits? Char.isDigit cs).bind fun (ds,cs) =>
      if danglingUnderscore cs then none else some ((negative,ds),cs)

/-- A number of 64 bits with a sign. -/
def int64? (i : Int) : Option Value :=
  if -9223372036854775808 ≤ i ∧ i ≤ 9223372036854775807 then some (.int i) else none

/-- A number in another base. -/
def based? (base : Nat) (isDigit : Char → Bool) (cs : List Char) : Read Value :=
  (digits? isDigit cs).bind fun (ds,cs) =>
    if danglingUnderscore cs then none else (int64? (Text.digitsFrom base 0 ds)).map (·,cs)

def integer? : List Char → Read Value
  | '0' :: 'x' :: cs => based? 16 Text.isHexDigit cs
  | '0' :: 'o' :: cs => based? 8 (fun c => '0' ≤ c && c ≤ '7') cs
  | '0' :: 'b' :: cs => based? 2 (fun c => c == '0' || c == '1') cs
  | cs => (decimal? cs).bind fun ((negative,ds),cs) =>
      let n : Int := Text.digitsFrom 10 0 ds
      (int64? (if negative then -n else n)).map (·,cs)

/-- The number nearest to digits and a power of ten, far exponents cut short. -/
def nearestTo (negative : Bool) (ds : List Char) (e : Int) : Binary64 :=
  let n := Text.digitsFrom 10 0 ds
  let size : Int := (Text.decimal n).length + e
  let x := if n = 0 ∨ size < -400 then Binary64.zero
    else if 400 < size then Binary64.infinity
    else Binary64.ofDecimal n e
  if negative then x.neg else x

/-- An exponent, if there is one. -/
def exponent? : List Char → Read (Option Int)
  | 'e' :: cs | 'E' :: cs =>
    let (negative,cs) := sign cs
    (digits? Char.isDigit cs).bind fun (ds,cs) =>
      if danglingUnderscore cs then none
      else
        let n : Int := Text.digitsFrom 10 0 ds
        some (some (if negative then -n else n),cs)
  | cs => some (none,cs)

/-- A number with a fraction, an exponent or both; too large a positive one is none. -/
def float? (cs : List Char) : Read Value :=
  (decimal? cs).bind fun ((negative,ds),cs) =>
    let fraction : Read (Option (List Char)) := match cs with
      | '.' :: cs => (digits? Char.isDigit cs).bind fun (fs,cs) =>
          if danglingUnderscore cs then none else some (some fs,cs)
      | cs => some (none,cs)
    fraction.bind fun (fs,cs) =>
      (exponent? cs).bind fun (e,cs) =>
        if fs.isNone && e.isNone then none
        else
          let fs := fs.getD []
          let x := nearestTo negative (ds ++ fs) (e.getD 0 - fs.length)
          if x = .infinity then none else some (.float x,cs)

/-- Infinity and what is no number, with an optional sign. -/
def special? (cs : List Char) : Read Value :=
  let (negative,cs) := sign cs
  let withSign (x : Binary64) : Value := .float (if negative then x.neg else x)
  match cs with
  | 'i' :: 'n' :: 'f' :: cs => some (withSign .infinity,cs)
  | 'n' :: 'a' :: 'n' :: cs => some (withSign .nan,cs)
  | _ => none

/-- Two digits of a value up to a bound. -/
def twoDigits? (low high : Nat) : List Char → Read Nat
  | a :: b :: cs =>
    let n := Text.digitsFrom 10 0 [a,b]
    if a.isDigit && b.isDigit && low ≤ n && n ≤ high then some (n,cs) else none
  | _ => none

/-- Whether a calendar date begins here: four digits and a dash. -/
def beginsDate (cs : List Char) : Bool :=
  (cs.take 4).length == 4 && (cs.take 4).all Char.isDigit && (cs.drop 4).head? == some '-'

/-- Whether a time of day begins here: two digits and a colon. -/
def beginsTime (cs : List Char) : Bool :=
  (twoDigits? 0 23 cs).any fun (_,cs) => cs.head? == some ':'

/-- A calendar date, as it is written. -/
def date? (cs : List Char) : Read (List Char) :=
  let year := Text.digitsFrom 10 0 (cs.take 4)
  (twoDigits? 1 12 (cs.drop 5)).bind fun (month,cs') =>
    match cs' with
    | '-' :: cs' => (twoDigits? 1 31 cs').bind fun (day,rest) =>
        if day ≤ Moment.daysInMonth year month then some (cs.take 10,rest) else none
    | _ => none

/-- A fraction of a second, to nine places and without zeros at the end. -/
def secondFraction? : List Char → Read (List Char)
  | '.' :: cs =>
    let ds := cs.takeWhile Char.isDigit
    if ds.isEmpty then none
    else
      let kept := ((ds.take 9).reverse.dropWhile (· == '0')).reverse
      some (if kept.isEmpty then [] else '.' :: kept,cs.drop ds.length)
  | cs => some ([],cs)

/-- A time of day, as it is written. -/
def time? (cs : List Char) : Read (List Char) :=
  (twoDigits? 0 59 (cs.drop 3)).bind fun (_,cs') =>
    match cs' with
    | ':' :: cs' => (twoDigits? 0 60 cs').bind fun (_,rest) =>
        (secondFraction? rest).map fun (fraction,rest) => (cs.take 8 ++ fraction,rest)
    | _ => none

/-- An offset from universal time, if there is one. -/
def timeOffset? : List Char → Read (List Char)
  | 'Z' :: cs | 'z' :: cs => some (['Z'],cs)
  | c :: cs =>
    if c == '+' || c == '-' then
      (twoDigits? 0 23 cs).bind fun (h,cs') =>
        match cs' with
        | ':' :: cs' => (twoDigits? 0 59 cs').map fun (m,rest) =>
            (if h = 0 ∧ m = 0 then ['+','0','0',':','0','0'] else c :: cs.take 5,rest)
        | _ => none
    else some ([],c :: cs)
  | [] => some ([],[])

/-- The key of the table that stands for a date or a time of day. -/
def momentKey : String := "$__toml_private_datetime"

def momentValue (shown : List Char) : Value := .table [(momentKey,.text (String.ofList shown))]

/-- A date with an optional time, or a time of day. -/
def moment? (cs : List Char) : Read Value :=
  if beginsDate cs then
    (date? cs).bind fun (date,cs) =>
      match cs with
      | c :: rest =>
        if (c == 'T' || c == 't' || c == ' ') && beginsTime rest then
          (time? rest).bind fun (time,rest) =>
            (timeOffset? rest).map fun (offset,rest) => (momentValue (date ++ 'T' :: time ++ offset),rest)
        else some (momentValue date,c :: rest)
      | [] => some (momentValue date,[])
  else (time? cs).map fun (time,rest) => (momentValue time,rest)

/-- A number, a date or a time of day. -/
def number? (cs : List Char) : Read Value :=
  if beginsDate cs || beginsTime cs then moment? cs
  else (float? cs).orElse fun _ => (special? cs).orElse fun _ => integer? cs

end Recon.Toml
