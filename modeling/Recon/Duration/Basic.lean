import Recon.Text.Decimal

/-! Spans of time in whole nanoseconds, below 2^64 seconds, and their two written forms: `text`, a
number with the largest unit that divides it, and `display`, seconds or less with a decimal point. -/
namespace Recon

/-- Units of time. -/
inductive Duration.Unit where
  | nano | micro | milli | second | minute | hour
deriving DecidableEq, Repr

def Duration.Unit.nanos : Duration.Unit → Nat
  | .nano => 1
  | .micro => 1000
  | .milli => 1000000
  | .second => 1000000000
  | .minute => 60000000000
  | .hour => 3600000000000

/-- Nanoseconds in 2^64 seconds, which no span reaches. -/
def Duration.limit : Nat := UInt64.size * Duration.Unit.second.nanos

structure Duration where
  nanos : Nat
  nanos_lt : nanos < Duration.limit
deriving DecidableEq, Repr

namespace Duration

@[ext] theorem ext {a b : Duration} (h : a.nanos = b.nanos) : a = b := by
  cases a; cases b; simp_all

def ofNanos? (n : Nat) : Option Duration := if h : n < limit then some ⟨n,h⟩ else none

/-- Seconds fit when they are below 2^64. -/
def ofSeconds? (n : Nat) : Option Duration := ofNanos? (n * Unit.second.nanos)

def zero : Duration := ⟨0,by decide⟩

instance : Inhabited Duration := ⟨zero⟩

def minutes (n : UInt16) : Duration :=
  ⟨n.toNat * Unit.minute.nanos,by
    have h := n.toNat_lt
    simp only [Unit.nanos,limit,UInt64.size]
    omega⟩

def isZero (d : Duration) : Bool := d.nanos == 0

/-- Whole seconds. -/
def seconds (d : Duration) : Nat := d.nanos / Unit.second.nanos

/-- Nanoseconds beyond the whole seconds. -/
def subsecond (d : Duration) : Nat := d.nanos % Unit.second.nanos

theorem ofNanos?_eq_some_iff {n : Nat} {d : Duration} : ofNanos? n = some d ↔ d.nanos = n := by
  unfold ofNanos?
  split
  · simp [Duration.ext_iff,eq_comm]
  · rename_i h
    simp only [reduceCtorEq,false_iff]
    rintro rfl
    exact h d.nanos_lt

@[simp] theorem ofNanos?_nanos (d : Duration) : ofNanos? d.nanos = some d := ofNanos?_eq_some_iff.2 rfl

/-- The name that a unit is written with. -/
def Unit.symbol : Unit → List Char
  | .nano => ['n','s']
  | .micro => ['u','s']
  | .milli => ['m','s']
  | .second => ['s']
  | .minute => ['m','i','n']
  | .hour => ['h']

/-- The unit of the written form: milliseconds and nanoseconds where seconds are not whole, otherwise
the largest that divides the span. -/
def unit (d : Duration) : Unit :=
  if d.nanos % Unit.milli.nanos ≠ 0 then .nano
  else if d.nanos % Unit.second.nanos ≠ 0 then .milli
  else if d.nanos = 0 then .second
  else if d.nanos % Unit.hour.nanos = 0 then .hour
  else if d.nanos % Unit.minute.nanos = 0 then .minute
  else .second

/-- A number with its unit, such as `90s`, `1500ms` or `2h`. -/
def text (d : Duration) : List Char := Text.decimal (d.nanos / d.unit.nanos) ++ d.unit.symbol

/-- `whole` with `rest` out of `10 ^ places` after a point, without zeros at the end. -/
def withFraction (whole rest places : Nat) : List Char :=
  let digits := ((Text.decimalPadded places rest).reverse.dropWhile (· == '0')).reverse
  if rest = 0 then Text.decimal whole else Text.decimal whole ++ '.' :: digits

/-- In seconds, milliseconds, microseconds or nanoseconds, whichever is the first to reach one. -/
def display (d : Duration) : List Char :=
  if Unit.second.nanos ≤ d.nanos then
    withFraction (d.nanos / Unit.second.nanos) (d.nanos % Unit.second.nanos) 9 ++ ['s']
  else if Unit.milli.nanos ≤ d.nanos then
    withFraction (d.nanos / Unit.milli.nanos) (d.nanos % Unit.milli.nanos) 6 ++ ['m','s']
  else if Unit.micro.nanos ≤ d.nanos then
    withFraction (d.nanos / Unit.micro.nanos) (d.nanos % Unit.micro.nanos) 3 ++ ['µ','s']
  else Text.decimal d.nanos ++ ['n','s']

end Duration
end Recon
