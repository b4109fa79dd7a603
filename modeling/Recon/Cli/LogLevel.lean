import Recon.Text.Decimal

/-! How much is logged. The levels are ordered from errors only up to everything. -/
namespace Recon

inductive LogLevel where
  | error | warn | info | debug | trace
deriving DecidableEq, Repr

namespace LogLevel

/-- Every level, the least talkative first. -/
def all : List LogLevel := [.error,.warn,.info,.debug,.trace]

instance : Inhabited LogLevel := ⟨.info⟩

/-- The number of a level, from one up. -/
def number : LogLevel → Nat
  | .error => 1
  | .warn => 2
  | .info => 3
  | .debug => 4
  | .trace => 5

def name : LogLevel → String
  | .error => "ERROR"
  | .warn => "WARN"
  | .info => "INFO"
  | .debug => "DEBUG"
  | .trace => "TRACE"

instance : LE LogLevel := ⟨fun a b => a.number ≤ b.number⟩

instance (a b : LogLevel) : Decidable (a ≤ b) := inferInstanceAs (Decidable (a.number ≤ b.number))

/-- The more talkative of two levels. -/
instance : Max LogLevel := ⟨fun a b => if a ≤ b then b else a⟩

theorem le_max_left (a b : LogLevel) : a ≤ max a b := by cases a <;> cases b <;> decide

def ofNumber? (n : Nat) : Option LogLevel := all.find? (·.number == n)

/-- A level by its number or by its name in any letter case. -/
def read? (s : String) : Option LogLevel :=
  match (Text.readSignedBelow? UInt64.size s.toList).bind ofNumber? with
  | some level => some level
  | none => all.find? fun level => level.name.toList == s.toList.map Char.toUpper

/-- The level that counts after so many requests for more. -/
def raised (configured : LogLevel) : (requests : Nat) → LogLevel
  | 0 => configured
  | 1 => max configured .debug
  | _ => .trace

@[simp] theorem ofNumber?_number (l : LogLevel) : ofNumber? l.number = some l := by cases l <;> rfl

/-- Asking for more never hides what was shown before. -/
theorem le_raised (configured : LogLevel) (requests : Nat) : configured ≤ configured.raised requests := by
  match requests with
  | 0 => cases configured <;> decide
  | 1 => exact le_max_left configured .debug
  | _ + 2 =>
    change configured ≤ LogLevel.trace
    cases configured <;> decide

end LogLevel
end Recon
