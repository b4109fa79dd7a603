/-! The course of a scan attempt: pending, running, and then one of three ends. -/
namespace Recon

inductive Status where
  | pending | running | completed | failed | timeout
deriving DecidableEq, Repr, Inhabited

namespace Status

def all : List Status := [.pending,.running,.completed,.failed,.timeout]

def name : Status → String
  | .pending => "pending"
  | .running => "running"
  | .completed => "completed"
  | .failed => "failed"
  | .timeout => "timeout"

def ofName? (s : String) : Option Status := all.find? (·.name == s)

@[simp] theorem ofName?_name (s : Status) : ofName? s.name = some s := by cases s <;> rfl

/-- No attempt goes on from here. -/
def isTerminal : Status → Bool
  | .completed | .failed | .timeout => true
  | .pending | .running => false

/-- A pending attempt starts to run, a running one ends. -/
def canBecome : Status → Status → Bool
  | .pending,next => next == .running
  | .running,next => next.isTerminal
  | _,_ => false

theorem not_canBecome_pending (s : Status) : s.canBecome .pending = false := by cases s <;> rfl

theorem not_canBecome_of_isTerminal {s t : Status} (h : s.isTerminal) : s.canBecome t = false := by
  cases s <;> first | rfl | simp [isTerminal] at h

end Status
end Recon
