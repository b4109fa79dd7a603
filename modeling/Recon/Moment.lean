import Recon.Text.Lines
import Recon.Text.Decimal

/-! Points in time by the calendar, in universal time. Reading accepts an offset and some freedom in
blanks; writing gives a date, a time and as many groups of three fraction digits as are needed. -/
namespace Recon

/-- A leap second is second 59 with a thousand million nanoseconds or more. -/
structure Moment where
  year : Int
  month : Nat
  day : Nat
  hour : Nat
  minute : Nat
  second : Nat
  nano : Nat
deriving DecidableEq, Repr, Inhabited

namespace Moment

def nanosPerSecond : Nat := 1000000000

def isLeapYear (y : Int) : Bool := y % 4 == 0 && (y % 100 != 0 || y % 400 == 0)

def daysInMonth (y : Int) (m : Nat) : Nat :=
  if m = 2 then (if isLeapYear y then 29 else 28)
  else if m = 4 ∨ m = 6 ∨ m = 9 ∨ m = 11 then 30
  else 31

/-- Years that a calendar date can have. -/
def yearInRange (y : Int) : Bool := -262143 ≤ y && y ≤ 262142

def isDate (y : Int) (m d : Nat) : Bool :=
  yearInRange y && 1 ≤ m && m ≤ 12 && 1 ≤ d && d ≤ daysInMonth y m

/-- The date of the next day. -/
def nextDay (t : Moment) : Moment :=
  if t.day < daysInMonth t.year t.month then { t with day := t.day + 1 }
  else if t.month < 12 then { t with month := t.month + 1, day := 1 }
  else { t with year := t.year + 1, month := 1, day := 1 }

/-- The date of the day before. -/
def previousDay (t : Moment) : Moment :=
  if 1 < t.day then { t with day := t.day - 1 }
  else if 1 < t.month then { t with month := t.month - 1, day := daysInMonth t.year (t.month - 1) }
  else { t with year := t.year - 1, month := 12, day := 31 }

/-- The same clock time `minutes` earlier, for offsets of less than a day. -/
def earlier (t : Moment) (minutes : Int) : Moment :=
  let total : Int := t.hour * 60 + t.minute - minutes
  let t' := if total < 0 then t.previousDay else if 1440 ≤ total then t.nextDay else t
  let clock := (total % 1440).toNat
  { t' with hour := clock / 60, minute := clock % 60 }

/-- A number of at most `width` digits at the start of a text, after blanks. -/
def number? (width : Nat) (cs : List Char) : Option (Nat × List Char) :=
  let cs := Text.trimStart cs
  let digits := (cs.take width).takeWhile Char.isDigit
  if digits.isEmpty then none else some (Text.digitsFrom 10 0 digits,cs.drop digits.length)

/-- A year of up to four digits, or of any number of digits after a sign. -/
def year? (cs : List Char) : Option (Int × List Char) :=
  match Text.trimStart cs with
  | '-' :: cs => if startsWithDigit cs then (number? cs.length cs).map fun (n,cs) => (-(n : Int),cs) else none
  | '+' :: cs => if startsWithDigit cs then (number? cs.length cs).map fun (n,cs) => ((n : Int),cs) else none
  | cs => (number? 4 cs).map fun (n,cs) => ((n : Int),cs)
where
  startsWithDigit (cs : List Char) : Bool := cs.head?.any Char.isDigit

/-- A separator after optional blanks. -/
def separator? (c : Char) (cs : List Char) : Option (List Char) :=
  match Text.trimStart cs with
  | d :: cs => if d = c then some cs else none
  | [] => none

/-- An optional fraction of a second, of which nine digits count. -/
def fraction? : List Char → Option (Nat × List Char)
  | '.' :: cs =>
    let digits := cs.takeWhile Char.isDigit
    if digits.isEmpty then none
    else
      let kept := digits.take 9
      some (Text.digitsFrom 10 0 kept * Text.tenTo (9 - kept.length),cs.drop digits.length)
  | cs => some (0,cs)

/-- An offset from universal time in minutes. -/
def offset? (cs : List Char) : Option (Int × List Char) :=
  if (cs.take 3).map Char.toLower == ['u','t','c'] then some (0,cs.drop 3)
  else match cs with
    | 'Z' :: cs | 'z' :: cs => some (0,cs)
    | '+' :: cs => clock? 1 cs
    | '-' :: cs | '\u2212' :: cs => clock? (-1) cs
    | _ => none
where
  clock? (sign : Int) : List Char → Option (Int × List Char)
    | h :: h' :: cs =>
      match cs.dropWhile (fun c => c == ':' || Text.isBlank c) with
      | m :: m' :: rest =>
        let hours := Text.digitsFrom 10 0 [h,h']
        let minutes := Text.digitsFrom 10 0 [m,m']
        if [h,h',m,m'].all Char.isDigit && hours < 24 && minutes < 60 then
          some (sign * (hours * 60 + minutes),rest)
        else none
      | _ => none
    | _ => none

def read? (cs : List Char) : Option Moment := do
  let (year,cs) ← year? cs
  let cs ← separator? '-' cs
  let (month,cs) ← number? 2 cs
  let cs ← separator? '-' cs
  let (day,cs) ← number? 2 cs
  let cs ← match cs with
    | 'T' :: cs | 't' :: cs | ' ' :: cs => some cs
    | _ => none
  let (hour,cs) ← number? 2 cs
  let cs ← separator? ':' cs
  let (minute,cs) ← number? 2 cs
  let cs ← separator? ':' cs
  let (second,cs) ← number? 2 cs
  let (nano,cs) ← fraction? cs
  let (offset,cs) ← offset? (Text.trimStart cs)
  if (Text.trimStart cs).isEmpty && isDate year month day && hour < 24 && minute < 60 && second ≤ 60 then
    let (second,nano) := if second = 60 then (59,nano + nanosPerSecond) else (second,nano)
    let t := earlier ⟨year,month,day,hour,minute,second,nano⟩ offset
    if yearInRange t.year then some t else none
  else none

/-- Four digits, or a sign and at least four. -/
def yearText (y : Int) : List Char :=
  if 0 ≤ y ∧ y ≤ 9999 then Text.decimalPadded 4 y.toNat
  else (if y < 0 then '-' else '+') :: Text.decimalPadded 4 y.natAbs

/-- Nothing, or a point and three, six or nine digits. -/
def fractionText (nano : Nat) : List Char :=
  if nano = 0 then []
  else if nano % 1000000 = 0 then '.' :: Text.decimalPadded 3 (nano / 1000000)
  else if nano % 1000 = 0 then '.' :: Text.decimalPadded 6 (nano / 1000)
  else '.' :: Text.decimalPadded 9 nano

def text (t : Moment) : List Char :=
  yearText t.year ++ '-' :: Text.decimalPadded 2 t.month ++ '-' :: Text.decimalPadded 2 t.day
    ++ 'T' :: Text.decimalPadded 2 t.hour ++ ':' :: Text.decimalPadded 2 t.minute
    ++ ':' :: Text.decimalPadded 2 (t.second + t.nano / nanosPerSecond) ++ fractionText (t.nano % nanosPerSecond) ++ ['Z']

end Moment
end Recon
