import Mathlib.Tactic.Lemma
import Recon.Engine.Stage

/-! How one scan can go: the scanner that it reaches, what is asked of that scanner and the result that
is left behind. -/
namespace Recon

variable {σ : Type}

/-- The configurations of the scans that were asked for, in order. -/
def dispatches (events : List Event) : List ScanConfig :=
  events.filterMap fun
    | .dispatched config => some config
    | .verified .. | .entered .. => none

@[simp] lemma dispatches_nil : dispatches [] = [] := rfl

@[simp] lemma dispatches_append (before after : List Event) :
    dispatches (before ++ after) = dispatches before ++ dispatches after := by
  simp [dispatches]

lemma mem_dispatches {events : List Event} {config : ScanConfig} :
    config ∈ dispatches events ↔ .dispatched config ∈ events := by
  unfold dispatches
  rw [List.mem_filterMap]
  constructor
  · rintro ⟨event,he,hc⟩
    cases event with
    | dispatched asked => exact Option.some.inj hc ▸ he
    | verified | entered => cases hc
  · exact fun h => ⟨_,h,rfl⟩

/-- A scanner that agrees to every configuration and always does the same. -/
def Scanner.doing (name : String) (category : Category) (job : Job) : Scanner where
  name := name
  category := category
  available := true
  verify _ := .accepted
  scan _ := job

/-- A world in which no program can be started and nobody gives up. -/
def World.still : World Unit where
  start _ _ memory := (.cannotStart "",memory)
  addresses _ := []
  calendar nanos := ⟨1970,1,1,0,0,0,nanos⟩
  cancelAt := none

namespace Registry

lemma mem_of_get {r : Registry} {name : String} {s : Scanner} (h : r.get name = .ok s) :
    s ∈ r.scanners ∧ s.name = name := by
  unfold get at h
  cases hf : r.find? name with
  | none => simp [hf] at h
  | some t =>
    simp only [hf] at h
    split at h
    · cases h
      unfold find? at hf
      exact ⟨List.mem_of_find?_eq_some hf,by simpa using List.find?_some hf⟩
    · cases h

/-- The scanner that a configuration asks for. -/
def select (r : Registry) (config : ScanConfig) : Except ScanError Scanner :=
  match config.tool with
  | none => .error .noToolSpecified
  | some name => r.get name

lemma mem_of_select {r : Registry} {config : ScanConfig} {s : Scanner}
    (h : r.select config = .ok s) : s ∈ r.scanners ∧ config.tool = some s.name := by
  unfold select at h
  split at h
  · cases h
  · next name ht =>
    obtain ⟨hs,hn⟩ := mem_of_get h
    exact ⟨hs,by rw [ht,hn]⟩

/-- The configuration reaches a scanner that can be used and agrees to it. -/
def Accepts (r : Registry) (config : ScanConfig) : Prop :=
  ∃ s, r.select config = .ok s ∧ s.verify config = .accepted

lemma accepts_iff {r : Registry} {config : ScanConfig} {s : Scanner} (hs : r.select config = .ok s) :
    r.Accepts config ↔ s.verify config = .accepted := by
  constructor
  · rintro ⟨t,ht,hv⟩
    rw [hs] at ht
    cases ht
    exact hv
  · exact fun hv => ⟨s,hs,hv⟩

/-- No scanner crashes while it verifies a configuration. -/
def VerifiesSafely (r : Registry) : Prop :=
  ∀ s ∈ r.scanners, ∀ config text, s.verify config ≠ .crashed text

end Registry

namespace Scanner

variable (s : Scanner) (w : World σ) (config : ScanConfig) (now : Nat) (memory : σ)

lemma runJob_events : (s.runJob w config now memory).2 = [] ∨
    (s.runJob w config now memory).2 = [.entered s.name config] := by
  unfold runJob
  cases w.cancelAt with
  | none => exact Or.inr rfl
  | some c =>
    by_cases hc : c ≤ now
    · exact Or.inl (by simp [hc])
    · exact Or.inr (by simp [hc])

lemma attempt_events : (s.attempt w config now memory).events = (s.runJob w config now memory).2 := by
  unfold attempt
  dsimp only
  split <;> rfl

/-- An attempt completes with a payload of the category of its scanner, or leaves a result that says why not. -/
theorem attempt_cases :
    (∃ timing payload, s.category.accepts payload = true ∧ (s.attempt w config now memory).verdict =
      .completed (.completed s.name s.category config.target timing payload)) ∨
    ∃ timing error, (s.attempt w config now memory).verdict =
      .failed error (some (.unsuccessful s.name s.category config.target timing error)) := by
  unfold attempt
  cases ho : (s.runJob w config now memory).1.ending.outcome s.name s.category config.timeout with
  | ok payload =>
    refine Or.inl ⟨_,payload,?_,by simp only [ho]; rfl⟩
    cases he : (s.runJob w config now memory).1.ending <;> simp only [Ending.outcome,he] at ho
    · split at ho
      · cases ho; assumption
      · cases ho
    all_goals cases ho
  | error error => exact Or.inr ⟨_,error,by simp only [ho]; rfl⟩

/-- An attempt asks for no further scan. -/
theorem dispatches_attempt : dispatches (s.attempt w config now memory).events = [] := by
  rw [attempt_events]
  obtain h | h := s.runJob_events w config now memory <;> rw [h] <;> rfl

end Scanner

lemma ScanResult.isTerminal_unsuccessful (scanner : String) (category : Category) (target : String)
    (t : Timing) (e : ScanError) :
    (unsuccessful scanner category target t e).status.isTerminal = true ∧
      (unsuccessful scanner category target t e).isCompleted = false := by
  change (statusOf e).isTerminal = true ∧ (statusOf e == .completed) = false
  cases e <;> exact ⟨rfl,rfl⟩

namespace Registry

/-- The courses of a scan, each with the whole of what it leaves. -/
theorem scan_cases (r : Registry) (w : World σ) (config : ScanConfig) (now : Nat) (memory : σ) :
    (∃ error, r.select config = .error error ∧
      r.scan w config now memory = ⟨.failed error none,[.dispatched config],[],now,memory⟩) ∨
    ∃ s, r.select config = .ok s ∧
      ((∃ text, s.verify config = .crashed text ∧ r.scan w config now memory =
        ⟨.crashed text,[.dispatched config,.verified s.name config],[],now,memory⟩) ∨
      (∃ error, s.verify config = .refused error ∧ r.scan w config now memory =
        ⟨.failed error none,[.dispatched config,.verified s.name config],[],now,memory⟩) ∨
      (s.verify config = .accepted ∧ r.scan w config now memory =
        { s.attempt w config now memory with
          events := .dispatched config :: .verified s.name config :: (s.attempt w config now memory).events })) := by
  unfold scan select
  cases ht : config.tool with
  | none => exact Or.inl ⟨_,rfl,rfl⟩
  | some name =>
    cases hg : r.get name with
    | error error => exact Or.inl ⟨error,hg,by simp only [hg]⟩
    | ok s =>
      refine Or.inr ⟨s,hg,?_⟩
      cases hv : s.verify config with
      | crashed text => exact Or.inl ⟨text,rfl,by simp only [hg,hv]⟩
      | refused error => exact Or.inr (Or.inl ⟨error,rfl,by simp only [hg,hv]⟩)
      | accepted => exact Or.inr (Or.inr ⟨rfl,by simp only [hg,hv]; rfl⟩)

variable (r : Registry) (w : World σ) (config : ScanConfig) (now : Nat) (memory : σ)

@[simp] lemma dispatches_scan : dispatches (r.scan w config now memory).events = [config] := by
  obtain ⟨error,_,h⟩ | ⟨s,_,⟨text,_,h⟩ | ⟨error,_,h⟩ | ⟨_,h⟩⟩ := r.scan_cases w config now memory
  · rw [h]; rfl
  · rw [h]; rfl
  · rw [h]; rfl
  · rw [h]
    simpa [dispatches] using s.dispatches_attempt w config now memory

/-- A scan leaves a result of the scanner that it asked for, or none because nobody accepted it. -/
theorem scan_result_cases :
    (r.Accepts config ∧ ∃ x, (r.scan w config now memory).result? = some x ∧
      config.tool = some x.scanner ∧ x.status.isTerminal = true ∧
      ((r.scan w config now memory).verdict = .completed x ∧ x.isCompleted = true ∨
        ∃ error, (r.scan w config now memory).verdict = .failed error (some x) ∧ x.isCompleted = false)) ∨
    (¬ r.Accepts config ∧ (r.scan w config now memory).result? = none ∧
      ((∃ error, (r.scan w config now memory).verdict = .failed error none) ∨
        ∃ s ∈ r.scanners, ∃ text, s.verify config = .crashed text ∧
          (r.scan w config now memory).verdict = .crashed text)) := by
  obtain ⟨error,hs,h⟩ | ⟨s,hs,⟨text,hv,h⟩ | ⟨error,hv,h⟩ | ⟨hv,h⟩⟩ := r.scan_cases w config now memory
  · refine Or.inr ⟨?_,by rw [h]; rfl,Or.inl ⟨error,by rw [h]⟩⟩
    rintro ⟨s,hs',_⟩
    rw [hs] at hs'
    cases hs'
  · refine Or.inr ⟨?_,by rw [h]; rfl,Or.inr ⟨s,(mem_of_select hs).1,text,hv,by rw [h]⟩⟩
    rw [accepts_iff hs,hv]
    nofun
  · refine Or.inr ⟨?_,by rw [h]; rfl,Or.inl ⟨error,by rw [h]⟩⟩
    rw [accepts_iff hs,hv]
    nofun
  · have hn := (mem_of_select hs).2
    refine Or.inl ⟨⟨s,hs,hv⟩,?_⟩
    rw [h]
    unfold Attempt.result?
    obtain ⟨timing,payload,_,ha⟩ | ⟨timing,error,ha⟩ := s.attempt_cases w config now memory
    · exact ⟨_,by simp only [ha],hn,rfl,Or.inl ⟨ha,rfl⟩⟩
    · obtain ⟨ht,hc⟩ := ScanResult.isTerminal_unsuccessful s.name s.category config.target timing error
      exact ⟨_,by simp only [ha],hn,ht,Or.inr ⟨error,ha,hc⟩⟩

/-- There is a result exactly when the configuration got past look-up and verification. -/
theorem result?_isSome_iff : (r.scan w config now memory).result?.isSome = true ↔ r.Accepts config := by
  obtain ⟨ha,x,hx,_⟩ | ⟨ha,hx,_⟩ := r.scan_result_cases w config now memory
  · simp [hx,ha]
  · simp [hx,ha]

variable {r w config now memory}

lemma scan_of_accepted {s : Scanner} (hs : r.select config = .ok s) (hv : s.verify config = .accepted) :
    (r.scan w config now memory).verdict = (s.attempt w config now memory).verdict := by
  obtain ⟨_,hs',_⟩ | ⟨t,ht,h⟩ := r.scan_cases w config now memory
  · rw [hs] at hs'
    cases hs'
  · rw [hs] at ht
    cases ht
    rw [hv] at h
    obtain ⟨_,h,_⟩ | ⟨_,h,_⟩ | ⟨_,h⟩ := h
    · cases h
    · cases h
    · rw [h]

/-- Only an attempt leaves a result. -/
theorem attempt_of_result {x : ScanResult} (h : (r.scan w config now memory).result? = some x) :
    ∃ s, r.select config = .ok s ∧ s.verify config = .accepted ∧
      (r.scan w config now memory).verdict = (s.attempt w config now memory).verdict := by
  obtain ⟨s,hs,hv⟩ := (r.result?_isSome_iff w config now memory).mp (by rw [h]; rfl)
  exact ⟨s,hs,hv,scan_of_accepted hs hv⟩

lemma tool_of_result {x : ScanResult} (h : (r.scan w config now memory).result? = some x) :
    config.tool = some x.scanner ∧ x.status.isTerminal = true := by
  obtain ⟨_,y,hy,ht,hs,_⟩ | ⟨_,hn,_⟩ := r.scan_result_cases w config now memory
  · rw [hy] at h
    cases h
    exact ⟨ht,hs⟩
  · rw [hn] at h
    cases h

lemma isCompleted_of_result {x : ScanResult} (hx : (r.scan w config now memory).result? = some x)
    (he : (r.scan w config now memory).error? = none) : x.isCompleted = true := by
  obtain ⟨_,y,hy,_,_,⟨_,hc⟩ | ⟨error,hv,_⟩⟩ | ⟨_,hn,_⟩ := r.scan_result_cases w config now memory
  · rw [hy] at hx
    cases hx
    exact hc
  · simp [Attempt.error?,hv] at he
  · rw [hn] at hx
    cases hx

lemma VerifiesSafely.verdict_ne_crashed (safe : r.VerifiesSafely) (text : String) :
    (r.scan w config now memory).verdict ≠ .crashed text := by
  intro h
  obtain ⟨_,y,_,_,_,⟨hv,_⟩ | ⟨error,hv,_⟩⟩ | ⟨_,_,⟨error,hv⟩ | ⟨s,hs,text,hc,_⟩⟩ :=
    r.scan_result_cases w config now memory
  · rw [hv] at h; cases h
  · rw [hv] at h; cases h
  · rw [hv] at h; cases h
  · exact safe s hs config text hc

end Registry

namespace Attempt

variable {a : Attempt σ}

lemma result?_of_completed {x : ScanResult} (h : a.verdict = .completed x) : a.result? = some x := by
  simp only [result?,h]

lemma error?_of_completed {x : ScanResult} (h : a.verdict = .completed x) : a.error? = none := by
  simp only [error?,h]

@[simp] lemma result?_asTask (stage : String) (i : Nat) : (a.asTask stage i).result? = a.result? := by
  unfold asTask result?
  cases h : a.verdict <;> simp [h]

lemma asTask_of_not_crashed (h : ∀ text, a.verdict ≠ .crashed text) (stage : String) (i : Nat) :
    a.asTask stage i = a := by
  unfold asTask
  cases hv : a.verdict with
  | crashed text => exact absurd hv (h text)
  | completed | failed => rfl

/-- A task without error has completed: a crash counts as an error. -/
theorem completed_of_asTask {stage : String} {i : Nat} (h : (a.asTask stage i).error? = none) :
    ∃ x, a.verdict = .completed x := by
  unfold asTask error? at h
  cases hv : a.verdict <;> simp_all

end Attempt
end Recon
