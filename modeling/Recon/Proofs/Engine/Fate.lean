import Recon.Proofs.Engine.Success

/-! What becomes of a scan when the caller gives up. A scan that is over by then is what it would have been
anyway; one under way ends on the spot, and one that would start later is not started: both leave a failed
result that says so. A configuration that nobody accepts leaves an error and no result, as at any other time. -/
namespace Recon

variable {σ : Type}

/-- The scanners that were started, in order, each with its configuration. -/
def entered (events : List Event) : List (String × ScanConfig) :=
  events.filterMap fun
    | .entered scanner config => some (scanner,config)
    | .dispatched _ | .verified .. => none

@[simp] lemma entered_nil : entered [] = [] := rfl

@[simp] lemma entered_append (before after : List Event) :
    entered (before ++ after) = entered before ++ entered after := by
  simp [entered]

lemma entered_flatMap {α : Type} (f : α → List Event) (xs : List α) :
    entered (xs.flatMap f) = xs.flatMap fun x => entered (f x) := by
  induction xs with
  | nil => rfl
  | cons x xs ih => rw [List.flatMap_cons,entered_append,ih,List.flatMap_cons]

/-- The same world, in which nobody gives up. -/
def World.patient (w : World σ) : World σ := { w with cancelAt := none }

/-- The same limits, but for giving up. -/
def Limits.patient (l : Limits) : Limits := { l with cancelAt := none }

/-- The result of a scan that was given up. -/
structure ScanResult.GivenUp (x : ScanResult) : Prop where
  status : x.status = .failed
  error : x.error = some (ScanError.scanCancelled x.scanner).message
  payload : x.payload = none

/-- When a wait for `t` is over. -/
def Waited.moment (t : Nat) : Waited → Nat
  | .reached => t
  | .timedOut at' | .cancelled at' => at'

/-- A wait is given up if it lasts until then, and otherwise is what it would have been. -/
theorem Limits.wait_cases {l : Limits} {c : Nat} (given : l.cancelAt = some c) (yields : Bool) (t : Nat) :
    (l.wait yields t = l.patient.wait yields t ∧ (l.patient.wait yields t).moment t < c) ∨
      (l.wait yields t = .cancelled c ∧ c ≤ (l.patient.wait yields t).moment t) := by
  cases hd : l.deadline with
  | none =>
    simp only [wait,patient,given,hd,Waited.moment,Bool.and_true,decide_eq_true_eq]
    by_cases hc : c ≤ t
    · exact Or.inr ⟨by rw [if_pos hc],hc⟩
    · exact Or.inl ⟨by rw [if_neg hc],Nat.lt_of_not_le hc⟩
  | some d =>
    simp only [wait,patient,given,hd,Bool.and_eq_true,Bool.or_eq_true,decide_eq_true_eq,beq_iff_eq]
    by_cases late : d < t ∨ yields = true ∧ d = t
    · have hdt : d ≤ t := by omega
      simp only [if_pos late,Waited.moment]
      by_cases hc : c ≤ d
      · exact Or.inr ⟨by rw [if_pos ⟨by omega,hc⟩],hc⟩
      · exact Or.inl ⟨by rw [if_neg fun h => hc h.2],Nat.lt_of_not_le hc⟩
    · have htd : t ≤ d := by omega
      simp only [if_neg late,Waited.moment]
      by_cases hc : c ≤ t
      · exact Or.inr ⟨by rw [if_pos ⟨hc,by omega⟩],hc⟩
      · exact Or.inl ⟨by rw [if_neg fun h => hc h.1],Nat.lt_of_not_le hc⟩

/-- Without giving up a wait is over when it is reached or at the deadline. -/
theorem Limits.patient_wait_cases (l : Limits) (yields : Bool) (t : Nat) :
    l.patient.wait yields t = .reached ∨
      ∃ d, l.deadline = some d ∧ l.patient.wait yields t = .timedOut d := by
  cases hd : l.deadline with
  | none => exact Or.inl (by simp [wait,patient,hd])
  | some d =>
    simp only [wait,patient,hd]
    split
    · exact Or.inr ⟨d,rfl,rfl⟩
    · exact Or.inl rfl

/-- What a job leaves that is given up at `c`, beside what it would have left: the same if it is over before, and
otherwise an end there and then. -/
def JobRun.CutAt (c : Nat) (cut whole : JobRun σ) : Prop :=
  (cut = whole ∧ cut.finish < c) ∨ (cut.ending = .cancelled ∧ cut.finish = c ∧ c ≤ whole.finish)

/-- What comes of a job that waits and goes on with `next`. -/
def Waited.andThen (waited : Waited) (memory : σ) (next : JobRun σ) : JobRun σ :=
  match waited with
  | .reached => next
  | .timedOut at' => ⟨.timedOut,at',[],memory⟩
  | .cancelled at' => ⟨.cancelled,at',[],memory⟩

namespace Limits

variable {l : Limits} {c t now : Nat} {yields : Bool} {memory : σ} {next whole : JobRun σ}

lemma le_finish_andThen (inTime : ∀ d, l.deadline = some d → now ≤ d)
    (goesOn : (∀ d, l.deadline = some d → t ≤ d) → now ≤ whole.finish) :
    now ≤ ((l.patient.wait yields t).andThen memory whole).finish := by
  obtain hw | ⟨d,hd,hw⟩ := l.patient_wait_cases yields t
  · rw [hw]
    exact goesOn fun d hd => le_of_reached hw hd
  · rw [hw]
    exact inTime d hd

lemma cutAt_andThen (given : l.cancelAt = some c)
    (forward : (∀ d, l.deadline = some d → t ≤ d) → t ≤ whole.finish)
    (goesOn : (∀ d, l.deadline = some d → t ≤ d) → t < c → next.CutAt c whole) :
    ((l.wait yields t).andThen memory next).CutAt c ((l.patient.wait yields t).andThen memory whole) := by
  obtain ⟨hw,hm⟩ | ⟨hw,hm⟩ := wait_cases given yields t
  · rw [hw]
    obtain hp | ⟨d,_,hp⟩ := l.patient_wait_cases yields t
    · rw [hp] at hm ⊢
      exact goesOn (fun d hd => le_of_reached hp hd) hm
    · rw [hp] at hm ⊢
      exact Or.inl ⟨rfl,hm⟩
  · rw [hw]
    refine Or.inr ⟨rfl,rfl,?_⟩
    obtain hp | ⟨d,_,hp⟩ := l.patient_wait_cases yields t
    · rw [hp] at hm ⊢
      exact Nat.le_trans hm (forward fun d hd => le_of_reached hp hd)
    · rw [hp] at hm ⊢
      exact hm

end Limits

namespace Job

lemma le_reportOf (limit : Duration) (now : Nat) (course : Course) :
    now ≤ (reportOf limit now course).2.1 := by
  cases course with
  | cannotStart | hangs => simp [reportOf]
  | ends after exit stdout stderr =>
    rw [reportOf]
    split
    · exact Nat.le_add_right now after
    · exact Nat.le_add_right now limit.nanos

lemma run_sleep (w : World σ) (l : Limits) (nanos : Nat) (next : Job) (now : Nat) (memory : σ) :
    (sleep nanos next).run w l now memory =
      (l.wait false (now + nanos)).andThen memory (next.run w l (now + nanos) memory) := by
  rw [run]
  cases l.wait false (now + nanos) <;> rfl

/-- A program that is over at once is not waited for. -/
theorem run_launch (w : World σ) (l : Limits) (command : Command) (limit : Duration) (next : Report → Job)
    {now : Nat} {memory remembered : σ} {course : Course} {report : Report} {t : Nat} {yields : Bool}
    (started : w.start now command memory = (course,remembered))
    (reported : reportOf limit now course = (report,t,yields)) :
    (launch command limit next).run w l now memory =
      if t = now then (next report).run w l t remembered
      else (l.wait yields t).andThen remembered ((next report).run w l t remembered) := by
  rw [run]
  simp only [started,reported]
  cases l.wait yields t <;> rfl

/-- A job does not see whether its world will be given up, only its limits do. -/
theorem run_patient_world (w : World σ) (l : Limits) (j : Job) (now : Nat) (memory : σ) :
    j.run w.patient l now memory = j.run w l now memory := by
  induction j generalizing now memory with
  | finish | fail | crash => rfl
  | sleep nanos next ih => simp only [run,ih]
  | launch command limit next ih => simp only [run,ih]; rfl
  | resolve hosts next ih => exact ih ..
  | warn warning next ih => simp only [run,ih]

/-- Time goes forward. -/
theorem le_finish (w : World σ) (l : Limits) (j : Job) {now : Nat} (memory : σ)
    (inTime : ∀ d, l.deadline = some d → now ≤ d) : now ≤ (j.run w l.patient now memory).finish := by
  induction j generalizing now memory with
  | finish | fail | crash => exact Nat.le_refl now
  | sleep nanos next ih =>
    rw [run_sleep]
    refine Limits.le_finish_andThen inTime fun reached => ?_
    exact Nat.le_trans (Nat.le_add_right now nanos) (ih memory reached)
  | launch command limit next ih =>
    rcases hs : w.start now command memory with ⟨course,remembered⟩
    rcases hr : reportOf limit now course with ⟨report,t,yields⟩
    have hn : now ≤ t := by simpa [hr] using le_reportOf limit now course
    rw [run_launch w l.patient command limit next hs hr]
    split
    · next ht =>
      subst ht
      exact ih report remembered inTime
    · exact Limits.le_finish_andThen inTime fun reached => Nat.le_trans hn (ih report remembered reached)
  | resolve hosts next ih => exact ih _ memory inTime
  | warn warning next ih => exact ih memory inTime

/-- A job that is given up at `c` is over before, as it would have been, or ends there and then. -/
theorem cutAt_run (w : World σ) {l : Limits} {c : Nat} (given : l.cancelAt = some c) (j : Job) {now : Nat}
    (memory : σ) (inTime : ∀ d, l.deadline = some d → now ≤ d) (ahead : now < c) :
    (j.run w l now memory).CutAt c (j.run w l.patient now memory) := by
  induction j generalizing now memory with
  | finish | fail | crash => exact Or.inl ⟨rfl,ahead⟩
  | sleep nanos next ih =>
    rw [run_sleep,run_sleep]
    exact Limits.cutAt_andThen given (fun reached => le_finish w l next memory reached)
      fun reached before => ih memory reached before
  | launch command limit next ih =>
    rcases hs : w.start now command memory with ⟨course,remembered⟩
    rcases hr : reportOf limit now course with ⟨report,t,yields⟩
    rw [run_launch w l command limit next hs hr,run_launch w l.patient command limit next hs hr]
    by_cases ht : t = now
    · subst ht
      rw [if_pos rfl,if_pos rfl]
      exact ih report remembered inTime ahead
    · rw [if_neg ht,if_neg ht]
      exact Limits.cutAt_andThen given (fun reached => le_finish w l (next report) remembered reached)
        fun reached before => ih report remembered reached before
  | resolve hosts next ih => exact ih _ memory inTime ahead
  | warn warning next ih =>
    obtain ⟨same,before⟩ | stopped := ih memory inTime ahead
    · exact Or.inl ⟨by simp only [run,same],before⟩
    · exact Or.inr stopped

end Job

namespace Scanner

variable (s : Scanner) (w : World σ) (config : ScanConfig) (now : Nat) (memory : σ)

/-- The attempt was given up: it failed, with a result that says so. -/
def GivenUp (a : Attempt σ) : Prop :=
  ∃ timing, a.verdict = .failed (.scanCancelled s.name)
    (some (.unsuccessful s.name s.category config.target timing (.scanCancelled s.name)))

lemma runJob_late {c : Nat} (given : w.cancelAt = some c) (late : c ≤ now) :
    s.runJob w config now memory = (⟨.cancelled,now,[],memory⟩,[]) := by
  simp [runJob,given,late]

lemma runJob_ahead {c : Nat} (given : w.cancelAt = some c) (ahead : now < c) : s.runJob w config now memory =
    ((s.scan config).run w ⟨config.deadline now,some c⟩ now memory,[.entered s.name config]) := by
  simp [runJob,given,ScanConfig.deadline,Nat.not_le.mpr ahead]

lemma le_deadline {d : Nat} (hd : config.deadline now = some d) : now ≤ d := by
  unfold ScanConfig.deadline at hd
  split at hd
  · cases hd
  · rw [← Option.some.inj hd]
    exact Nat.le_add_right now config.timeout.nanos

lemma givenUp_of_cancelled (h : (s.runJob w config now memory).1.ending = .cancelled) :
    s.GivenUp config (s.attempt w config now memory) := by
  unfold attempt
  simp only [h,Ending.outcome]
  exact ⟨_,rfl⟩

lemma finish_attempt : (s.attempt w config now memory).finish = (s.runJob w config now memory).1.finish := by
  unfold attempt
  dsimp only
  split <;> rfl

lemma runJob_patient : s.runJob w.patient config now memory =
    ((s.scan config).run w (⟨config.deadline now,none⟩) now memory,[.entered s.name config]) := by
  rw [s.runJob_of_uncancelled w.patient config now memory rfl,Job.run_patient_world]

lemma attempt_congr {w₁ w₂ : World σ} (calendar : w₁.calendar = w₂.calendar)
    (same : s.runJob w₁ config now memory = s.runJob w₂ config now memory) :
    s.attempt w₁ config now memory = s.attempt w₂ config now memory := by
  unfold attempt
  rw [same,calendar]

lemma le_finish_patient : now ≤ (s.attempt w.patient config now memory).finish := by
  rw [finish_attempt,runJob_patient]
  exact Job.le_finish w ⟨config.deadline now,none⟩ (s.scan config) memory fun d hd => le_deadline config now hd

/-- An attempt is over before it is given up, as it would have been, or given up while it is under way, or not
started. -/
theorem attempt_fate {c : Nat} (given : w.cancelAt = some c) :
    (s.attempt w config now memory = s.attempt w.patient config now memory ∧ now < c ∧
      (s.attempt w config now memory).finish < c) ∨
    (s.GivenUp config (s.attempt w config now memory) ∧ now < c ∧
      (s.attempt w config now memory).finish = c ∧ c ≤ (s.attempt w.patient config now memory).finish) ∨
    (s.GivenUp config (s.attempt w config now memory) ∧ c ≤ now ∧
      (s.attempt w config now memory).finish = now ∧ (s.attempt w config now memory).events = []) := by
  by_cases late : c ≤ now
  · have hj := s.runJob_late w config now memory given late
    refine Or.inr (Or.inr ⟨s.givenUp_of_cancelled w config now memory (by rw [hj]),late,?_,?_⟩)
    · rw [finish_attempt,hj]
    · rw [attempt_events,hj]
  · have ahead : now < c := Nat.lt_of_not_le late
    have hj := s.runJob_ahead w config now memory given ahead
    have hp := s.runJob_patient w config now memory
    have cut := Job.cutAt_run w (l := ⟨config.deadline now,some c⟩) rfl (s.scan config) memory
      (fun d hd => le_deadline config now hd) ahead
    obtain ⟨same,before⟩ | ⟨ending,finish,whole⟩ := cut
    · refine Or.inl ⟨?_,ahead,?_⟩
      · exact s.attempt_congr config now memory rfl (by rw [hj,hp,same]; rfl)
      · rw [finish_attempt,hj]
        exact before
    · refine Or.inr (Or.inl ⟨s.givenUp_of_cancelled w config now memory (by rw [hj]; exact ending),ahead,?_,?_⟩)
      · rw [finish_attempt,hj]
        exact finish
      · rw [finish_attempt,hp]
        exact whole

end Scanner

namespace Registry

instance (r : Registry) (config : ScanConfig) : Decidable (r.Accepts config) :=
  match h : r.select config with
  | .error _ => isFalse fun ⟨_,hs,_⟩ => by rw [h] at hs; cases hs
  | .ok s => decidable_of_iff (s.verify config = .accepted) (accepts_iff h).symm

/-- What a scan that starts at `now` comes to when the caller gives up at `c`. -/
inductive Fate (r : Registry) (w : World σ) (c : Nat) (config : ScanConfig) (now : Nat) (memory : σ)
    (a : Attempt σ) : Prop
  /-- Nobody accepted the configuration. -/
  | refused {error : ScanError} (declined : ¬ r.Accepts config)
      (same : a = r.scan w.patient config now memory) (failed : a.verdict = .failed error none)
      (quiet : entered a.events = []) (finish : a.finish = now)
  /-- It was over before, and is what it would have been. -/
  | ended (accepted : r.Accepts config) (same : a = r.scan w.patient config now memory) (ahead : now < c)
      (before : a.finish < c)
  /-- It was under way, and ended there and then. -/
  | struck {s : Scanner} (reached : r.select config = .ok s) (accepted : s.verify config = .accepted)
      (givenUp : s.GivenUp config a) (ahead : now < c) (finish : a.finish = c)
      (unfinished : c ≤ (r.scan w.patient config now memory).finish)
  /-- It was not started. -/
  | late {s : Scanner} (reached : r.select config = .ok s) (accepted : s.verify config = .accepted)
      (givenUp : s.GivenUp config a) (after : c ≤ now) (finish : a.finish = now)
      (quiet : entered a.events = [])

variable {r : Registry} {w : World σ} {c : Nat} {config : ScanConfig} {now : Nat} {memory : σ} {a : Attempt σ}

/-- An accepted scan is the attempt of its scanner. -/
theorem scan_eq_of_accepted (w : World σ) (now : Nat) (memory : σ) {s : Scanner} (hs : r.select config = .ok s)
    (hv : s.verify config = .accepted) : r.scan w config now memory = { s.attempt w config now memory with
      events := .dispatched config :: .verified s.name config :: (s.attempt w config now memory).events } := by
  obtain ⟨_,hs',_⟩ | ⟨t,ht,h⟩ := r.scan_cases w config now memory
  · rw [hs] at hs'
    cases hs'
  · rw [hs] at ht
    cases ht
    rw [hv] at h
    obtain ⟨_,h,_⟩ | ⟨_,h,_⟩ | ⟨_,h⟩ := h
    · cases h
    · cases h
    · exact h

/-- A configuration that nobody accepts goes the same way in every world. -/
theorem scan_eq_of_declined (declined : ¬ r.Accepts config) (w₁ w₂ : World σ) :
    r.scan w₁ config now memory = r.scan w₂ config now memory := by
  unfold Accepts select at declined
  unfold scan
  cases ht : config.tool with
  | none => rfl
  | some name =>
    cases hg : r.get name with
    | error error => simp only [hg]
    | ok s =>
      cases hv : s.verify config with
      | accepted => exact absurd ⟨s,by simp only [ht,hg],hv⟩ declined
      | refused error | crashed text => simp only [hg,hv]

lemma failed_of_declined (w : World σ) (now : Nat) (memory : σ) (safe : r.VerifiesSafely)
    (declined : ¬ r.Accepts config) : ∃ error, (r.scan w config now memory).verdict = .failed error none ∧
      entered (r.scan w config now memory).events = [] ∧ (r.scan w config now memory).finish = now := by
  obtain ⟨error,_,h⟩ | ⟨s,hs,⟨text,hv,_⟩ | ⟨error,_,h⟩ | ⟨hv,_⟩⟩ := r.scan_cases w config now memory
  · exact ⟨error,by rw [h],by rw [h]; rfl,by rw [h]⟩
  · exact absurd hv (safe s (mem_of_select hs).1 config text)
  · exact ⟨error,by rw [h],by rw [h]; rfl,by rw [h]⟩
  · exact absurd ⟨s,hs,hv⟩ declined

/-- Time goes forward. -/
theorem le_finish_scan (given : w.cancelAt = some c) : now ≤ (r.scan w config now memory).finish := by
  obtain ⟨error,_,h⟩ | ⟨s,_,⟨text,_,h⟩ | ⟨error,_,h⟩ | ⟨_,h⟩⟩ := r.scan_cases w config now memory
  · exact Nat.le_of_eq (by rw [h])
  · exact Nat.le_of_eq (by rw [h])
  · exact Nat.le_of_eq (by rw [h])
  · rw [h]
    obtain ⟨same,_,_⟩ | ⟨_,ahead,finish,_⟩ | ⟨_,_,finish,_⟩ := s.attempt_fate w config now memory given
    · rw [same]
      exact s.le_finish_patient w config now memory
    · exact Nat.le_of_lt (by rw [finish]; exact ahead)
    · exact Nat.le_of_eq finish.symm

/-- No scan that starts from then on completes. -/
theorem ne_completed_of_after (given : w.cancelAt = some c) (after : c ≤ now) (x : ScanResult) :
    (r.scan w config now memory).verdict ≠ .completed x := by
  intro completed
  obtain ⟨s,_,_,hs⟩ := attempt_of_result (Attempt.result?_of_completed completed)
  obtain ⟨_,ahead,_⟩ | ⟨_,ahead,_,_⟩ | ⟨⟨_,givenUp⟩,_,_,_⟩ := s.attempt_fate w config now memory given
  · omega
  · omega
  · rw [hs,givenUp] at completed
    cases completed

/-- Every scan has one of these fates. -/
theorem fate (config : ScanConfig) (now : Nat) (memory : σ) (safe : r.VerifiesSafely)
    (given : w.cancelAt = some c) :
    r.Fate w c config now memory (r.scan w config now memory) := by
  by_cases accepts : r.Accepts config
  · obtain ⟨s,hs,hv⟩ := accepts
    have h := scan_eq_of_accepted w now memory hs hv
    have hp := scan_eq_of_accepted w.patient now memory hs hv
    obtain ⟨same,ahead,before⟩ | ⟨givenUp,ahead,finish,whole⟩ | ⟨givenUp,after,finish,quiet⟩ :=
      s.attempt_fate w config now memory given
    · exact .ended ⟨s,hs,hv⟩ (by rw [h,hp,same]) ahead (by rw [h]; exact before)
    · exact .struck hs hv (by rw [h]; exact givenUp) ahead (by rw [h]; exact finish) (by rw [hp]; exact whole)
    · exact .late hs hv (by rw [h]; exact givenUp) after (by rw [h]; exact finish)
        (by rw [h]; simp only [quiet]; rfl)
  · obtain ⟨error,failed,quiet,finish⟩ := failed_of_declined w now memory safe accepts
    exact .refused accepts (scan_eq_of_declined accepts w w.patient) failed quiet finish

namespace Fate

/-- A scan that is over before is what it would have been. -/
theorem same_of_finish (h : r.Fate w c config now memory a) (before : a.finish < c) :
    a = r.scan w.patient config now memory := by
  cases h with
  | refused _ same _ _ _ => exact same
  | ended _ same _ _ => exact same
  | struck _ _ _ _ finish _ => exact absurd before (Nat.not_lt.mpr (Nat.le_of_eq finish.symm))
  | late _ _ _ after finish _ =>
    rw [finish] at before
    exact absurd before (Nat.not_lt.mpr after)

/-- What is left from then on says that the scan was given up. -/
theorem result_cases (h : r.Fate w c config now memory a) {x : ScanResult} (hx : a.result? = some x) :
    a.finish < c ∨ (x.GivenUp ∧ a.error? = some (.scanCancelled x.scanner) ∧ c ≤ a.finish) := by
  have told {s : Scanner} (givenUp : s.GivenUp config a) :
      x.GivenUp ∧ a.error? = some (.scanCancelled x.scanner) := by
    obtain ⟨timing,hv⟩ := givenUp
    simp only [Attempt.result?,hv,Option.some.injEq] at hx
    subst hx
    exact ⟨⟨rfl,rfl,rfl⟩,by simp only [Attempt.error?,hv]; rfl⟩
  cases h with
  | refused _ _ failed _ _ =>
    simp only [Attempt.result?,failed] at hx
    cases hx
  | ended _ _ _ before => exact Or.inl before
  | struck _ _ givenUp _ finish _ => exact Or.inr ⟨(told givenUp).1,(told givenUp).2,Nat.le_of_eq finish.symm⟩
  | late _ _ givenUp after finish _ => exact Or.inr ⟨(told givenUp).1,(told givenUp).2,by rw [finish]; exact after⟩

/-- A scan that completes is over before. -/
theorem before_of_completed (h : r.Fate w c config now memory a) {x : ScanResult} (hv : a.verdict = .completed x) :
    a.finish < c := by
  obtain before | ⟨_,failed,_⟩ := h.result_cases (Attempt.result?_of_completed hv)
  · exact before
  · rw [Attempt.error?_of_completed hv] at failed
    cases failed

/-- A scan that starts from then on comes to nothing: it fails, and nothing was started. -/
theorem failed_of_after (h : r.Fate w c config now memory a) (after : c ≤ now) :
    (∃ error result, a.verdict = .failed error result) ∧ entered a.events = [] ∧ a.finish = now := by
  cases h with
  | refused _ _ failed quiet finish => exact ⟨⟨_,_,failed⟩,quiet,finish⟩
  | ended _ _ ahead _ | struck _ _ _ ahead _ _ => exact absurd ahead (Nat.not_lt.mpr after)
  | late _ _ givenUp _ finish quiet =>
    obtain ⟨timing,failed⟩ := givenUp
    exact ⟨⟨_,_,failed⟩,quiet,finish⟩

end Fate
end Registry
end Recon
