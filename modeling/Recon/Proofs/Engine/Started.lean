import Recon.Proofs.Engine.Fate

/-! What a job starts. The commands are noted by the world, which a job cannot tell, and a property of commands that the
tree of the job shows everywhere is one of all that are noted. -/
namespace Recon

variable {σ : Type}

/-- The world that also notes every command which is started, with the course that it takes. -/
def World.recorded (w : World σ) : World (σ × List (Command × Course)) where
  start now command memory :=
    let (course,remembered) := w.start now command memory.1
    (course,remembered,memory.2 ++ [(command,course)])
  addresses := w.addresses
  calendar := w.calendar
  cancelAt := w.cancelAt

lemma World.start_recorded {w : World σ} {now : Nat} {command : Command} {memory : σ × List (Command × Course)}
    {course : Course} {remembered : σ} (h : w.start now command memory.1 = (course,remembered)) :
    w.recorded.start now command memory = (course,remembered,memory.2 ++ [(command,course)]) := by
  simp only [recorded,h]

def JobRun.forget {τ : Type} (r : JobRun (σ × τ)) : JobRun σ := ⟨r.ending,r.finish,r.warnings,r.memory.1⟩

namespace Job

variable (w : World σ)

/-- A job cannot tell that its commands are noted. -/
theorem run_recorded (l : Limits) (j : Job) (now : Nat) (memory : σ × List (Command × Course)) :
    (j.run w.recorded l now memory).forget = j.run w l now memory.1 := by
  induction j generalizing now memory with
  | finish | fail | crash => rfl
  | sleep nanos next ih =>
    rw [run_sleep,run_sleep]
    cases l.wait false (now + nanos) with
    | reached => exact ih ..
    | timedOut | cancelled => rfl
  | launch command limit next ih =>
    rcases hs : w.start now command memory.1 with ⟨course,remembered⟩
    rcases hr : reportOf limit now course with ⟨report,t,yields⟩
    rw [run_launch w.recorded l command limit next (World.start_recorded hs) hr,run_launch w l command limit next hs hr]
    split
    · exact ih ..
    · cases l.wait yields t with
      | reached => exact ih ..
      | timedOut | cancelled => rfl
  | resolve hosts next ih => exact ih ..
  | warn warning next ih =>
    have same := ih now memory
    simp only [run,← same]
    rfl

/-- The commands that a job starts, in order, with the courses that they take. -/
def started (l : Limits) (j : Job) (now : Nat) (memory : σ) : List (Command × Course) :=
  (j.run w.recorded l now (memory,[])).memory.2

/-- Whatever the reports and addresses are, a job starts only commands that satisfy `S`. -/
def StartsOnly (S : Command → Prop) : Job → Prop
  | .launch command _ next => S command ∧ ∀ report, (next report).StartsOnly S
  | .sleep _ next | .warn _ next => next.StartsOnly S
  | .resolve _ next => ∀ addresses, (next addresses).StartsOnly S
  | .finish _ | .fail _ | .crash => True

variable {w}

lemma StartsOnly.noted {S : Command → Prop} {j : Job} (h : j.StartsOnly S) (l : Limits) (now : Nat)
    {memory : σ × List (Command × Course)} (before : ∀ e ∈ memory.2, S e.1) :
    ∀ e ∈ (j.run w.recorded l now memory).memory.2, S e.1 := by
  induction j generalizing now memory with
  | finish | fail | crash => exact before
  | sleep nanos next ih =>
    rw [run_sleep]
    cases l.wait false (now + nanos) with
    | reached => exact ih h _ before
    | timedOut | cancelled => exact before
  | launch command limit next ih =>
    rcases hs : w.start now command memory.1 with ⟨course,remembered⟩
    rcases hr : reportOf limit now course with ⟨report,t,yields⟩
    have after : ∀ e ∈ memory.2 ++ [(command,course)], S e.1 :=
      List.forall_mem_append.mpr ⟨before,List.forall_mem_singleton.mpr h.1⟩
    rw [run_launch w.recorded l command limit next (World.start_recorded hs) hr]
    split
    · exact ih report (h.2 report) _ after
    · cases l.wait yields t with
      | reached => exact ih report (h.2 report) _ after
      | timedOut | cancelled => exact after
  | resolve hosts next ih => exact ih _ (h _) now before
  | warn warning next ih => exact ih h now before

lemma StartsOnly.started {S : Command → Prop} {j : Job} (h : j.StartsOnly S) (l : Limits) (now : Nat) (memory : σ) :
    ∀ e ∈ j.started w l now memory, S e.1 := h.noted l now nofun

end Job
end Recon
