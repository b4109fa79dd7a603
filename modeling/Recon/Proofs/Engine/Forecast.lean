import Mathlib.Data.List.Basic
import Recon.Proofs.Engine.Course

/-! What predictable scanners come to. Where the outcome of a scan hangs on nothing but a view of its
configuration, the verdicts of scans, and from them those of stages, are told in advance, whatever the clock
and the programs do; only the times of the results are left open. -/
namespace Recon

variable {σ : Type}

/-- A result without its times. -/
def ScanResult.timeless (x : ScanResult) : ScanResult :=
  { x with startTime := default, endTime := default, duration := default }

@[simp] lemma ScanResult.scanner_timeless (x : ScanResult) : x.timeless.scanner = x.scanner := rfl

@[simp] lemma ScanResult.status_timeless (x : ScanResult) : x.timeless.status = x.status := rfl

@[simp] lemma timeless_comp_timeless : ScanResult.timeless ∘ ScanResult.timeless = ScanResult.timeless := rfl

/-- What a scanner can go by that does not look at the times of earlier results. -/
def ScanConfig.timeless (config : ScanConfig) : ScanConfig :=
  config.withParents (config.parents.map ScanResult.timeless)

lemma Pipeline.timeless_configFor (p : Pipeline) (timeout : Duration) (stage : Stage) (name : String)
    (parents : List ScanResult) : (p.configFor timeout stage name parents).timeless =
      p.configFor timeout stage name (parents.map ScanResult.timeless) := rfl

@[simp] lemma ScanConfig.timeless_timeless (config : ScanConfig) :
    config.timeless.timeless = config.timeless := by
  simp [timeless,withParents]

/-- What a scanner can go by that does not look at earlier results at all. -/
def ScanConfig.alone (config : ScanConfig) : ScanConfig := config.withParents []

namespace Verdict

def timeless : Verdict → Verdict
  | .completed result => .completed result.timeless
  | .failed error result => .failed error (result.map ScanResult.timeless)
  | .crashed text => .crashed text

def result? : Verdict → Option ScanResult
  | .completed result => some result
  | .failed _ result => result
  | .crashed _ => none

def error? : Verdict → Option ScanError
  | .failed error _ => some error
  | .completed _ | .crashed _ => none

def isCompleted : Verdict → Bool
  | .completed _ => true
  | .failed .. | .crashed _ => false

lemma isCompleted_iff {v : Verdict} : v.isCompleted = true ↔ ∃ x, v = .completed x := by
  cases v <;> simp [isCompleted]

@[simp] lemma result?_timeless (v : Verdict) : v.timeless.result? = v.result?.map ScanResult.timeless := by
  cases v <;> rfl

@[simp] lemma error?_timeless (v : Verdict) : v.timeless.error? = v.error? := by
  cases v <;> rfl

@[simp] lemma isCompleted_timeless (v : Verdict) : v.timeless.isCompleted = v.isCompleted := by
  cases v <;> rfl

end Verdict

lemma Attempt.result?_eq (a : Attempt σ) : a.result? = a.verdict.result? := by
  unfold result?
  cases a.verdict <;> rfl

lemma Attempt.error?_eq (a : Attempt σ) : a.error? = a.verdict.error? := by
  unfold error?
  cases a.verdict <;> rfl

/-- What a list of attempts leaves is told by their verdicts. -/
theorem Attempt.filterMap_result?_timeless (attempts : List (Attempt σ)) :
    (attempts.filterMap Attempt.result?).map ScanResult.timeless =
      (attempts.map (·.verdict.timeless)).filterMap Verdict.result? := by
  rw [List.map_filterMap,List.filterMap_map]
  exact List.filterMap_congr fun a _ => by simp [Attempt.result?_eq]

lemma Attempt.findSome?_error?_timeless (attempts : List (Attempt σ)) :
    attempts.findSome? Attempt.error? = (attempts.map (·.verdict.timeless)).findSome? Verdict.error? := by
  rw [List.findSome?_map]
  congr 1
  funext a
  simp [Attempt.error?_eq]

/-- A task is without error exactly if its scan completed. -/
theorem Attempt.error?_asTask_eq_none_iff (a : Attempt σ) (stage : String) (i : Nat) :
    (a.asTask stage i).error? = none ↔ a.verdict.isCompleted = true := by
  unfold asTask error?
  cases hv : a.verdict <;> simp [hv,Verdict.isCompleted]

def StageVerdict.timeless : StageVerdict → StageVerdict
  | .ended results error => .ended (results.map ScanResult.timeless) error
  | .crashed text => .crashed text

/-- What a scanner says to a configuration and what becomes of its scan is told by what `view` leaves of the
configuration; nobody gives up. -/
structure Engine.Predictable (e : Engine σ) (view : ScanConfig → ScanConfig)
    (outcome : String → ScanConfig → Ending) : Prop where
  uncancelled : e.world.cancelAt = none
  verify : ∀ s ∈ e.registry.scanners, ∀ config, s.verify config = s.verify (view config)
  ending : ∀ s ∈ e.registry.scanners, ∀ config now memory,
    (s.runJob e.world config now memory).1.ending = outcome s.name (view config)

namespace Registry

/-- What a scan comes to, its times left out. -/
def forecast (r : Registry) (view : ScanConfig → ScanConfig) (outcome : String → ScanConfig → Ending)
    (config : ScanConfig) : Verdict :=
  match r.select config with
  | .error error => .failed error none
  | .ok s =>
    match s.verify (view config) with
    | .crashed text => .crashed text
    | .refused error => .failed error none
    | .accepted =>
      match (outcome s.name (view config)).outcome s.name s.category config.timeout with
      | .ok payload => .completed (.completed s.name s.category config.target default payload)
      | .error error => .failed error (some (.unsuccessful s.name s.category config.target default error))

/-- What a serial stage comes to that has found `done` so far. -/
def forecastSerial (r : Registry) (view : ScanConfig → ScanConfig) (outcome : String → ScanConfig → Ending)
    (config : String → List ScanResult → ScanConfig) (previous done : List ScanResult) :
    List String → StageVerdict
  | [] => .ended done none
  | name :: names =>
    match r.forecast view outcome (config name (previous ++ done)) with
    | .completed x => r.forecastSerial view outcome config previous (done ++ [x]) names
    | .failed error _ => .ended done (some error)
    | .crashed text => .crashed text

variable {r : Registry} {view : ScanConfig → ScanConfig} {outcome : String → ScanConfig → Ending}

/-- The parents of a configuration count as far as they are seen. -/
theorem forecast_configFor_congr {p : Pipeline} {timeout : Duration} {stage : Stage} {name : String}
    {parents others : List ScanResult}
    (alike : view (p.configFor timeout stage name parents) = view (p.configFor timeout stage name others)) :
    r.forecast view outcome (p.configFor timeout stage name parents) =
      r.forecast view outcome (p.configFor timeout stage name others) := by
  unfold forecast
  rw [alike]
  rfl

lemma forecastSerial_congr {config : String → List ScanResult → ScanConfig} {previous others : List ScanResult}
    (alike : ∀ name done, r.forecast view outcome (config name (previous ++ done)) =
      r.forecast view outcome (config name (others ++ done))) (done : List ScanResult) (names : List String) :
    r.forecastSerial view outcome config previous done names =
      r.forecastSerial view outcome config others done names := by
  induction names generalizing done with
  | nil => rfl
  | cons name names ih =>
    unfold forecastSerial
    rw [alike]
    cases r.forecast view outcome (config name (others ++ done)) with
    | completed x => exact ih _
    | failed | crashed => rfl

lemma forecast_ne_crashed (safe : r.VerifiesSafely) (config : ScanConfig) (text : String) :
    r.forecast view outcome config ≠ .crashed text := by
  unfold forecast
  cases hs : r.select config with
  | error error => simp
  | ok s =>
    have hv := safe s (mem_of_select hs).1 (view config)
    dsimp only
    cases hd : s.verify (view config) with
    | crashed other => exact absurd hd (hv other)
    | refused error => simp
    | accepted => cases (outcome s.name (view config)).outcome s.name s.category config.timeout <;> simp

end Registry

/-- A crash of a task leaves no result, as it leaves none of the scan. -/
theorem Engine.filterMap_result?_tasks (e : Engine σ) (stage : String) (config : String → ScanConfig)
    (names : List String) (now : Nat) (memory : σ) :
    (e.tasks stage config names now memory).filterMap Attempt.result? =
      (e.startAll config now names memory).1.filterMap Attempt.result? := by
  have ht : (e.tasks stage config names now memory).map Attempt.result? =
      (e.startAll config now names memory).1.map Attempt.result? := by
    unfold tasks
    apply List.ext_getElem <;> simp
  simpa [List.filterMap_map] using congrArg (List.filterMap id) ht

/-- A parallel stage is without error exactly if all its scans complete. -/
theorem Engine.findSome?_error?_arrived_eq_none_iff (e : Engine σ) (index : Nat) (stage : String)
    (config : String → ScanConfig) (names : List String) (now : Nat) (memory : σ) :
    (e.arrived index stage config names now memory).findSome? Attempt.error? = none ↔
      ∀ a ∈ (e.startAll config now names memory).1, a.verdict.isCompleted = true := by
  calc (e.arrived index stage config names now memory).findSome? Attempt.error? = none
      ↔ ∀ a ∈ e.tasks stage config names now memory, a.error? = none := by
        simp only [List.findSome?_eq_none_iff,e.mem_arrived]
    _ ↔ _ := by
        unfold tasks
        constructor
        · intro hn a ha
          obtain ⟨i,hi,rfl⟩ := List.getElem_of_mem ha
          exact (Attempt.error?_asTask_eq_none_iff ..).mp (hn _ (List.mem_mapIdx.mpr ⟨i,hi,rfl⟩))
        · intro hc a ha
          obtain ⟨i,hi,rfl⟩ := List.mem_mapIdx.mp ha
          exact (Attempt.error?_asTask_eq_none_iff ..).mpr (hc _ (List.getElem_mem hi))

namespace Engine.Predictable

variable {e : Engine σ} {view : ScanConfig → ScanConfig} {outcome : String → ScanConfig → Ending}
  (h : e.Predictable view outcome)

include h

lemma verdict_scan (config : ScanConfig) (now : Nat) (memory : σ) :
    (e.registry.scan e.world config now memory).verdict.timeless = e.registry.forecast view outcome config := by
  unfold Registry.forecast
  obtain ⟨error,hs,hr⟩ | ⟨s,hs,hr⟩ := e.registry.scan_cases e.world config now memory
  · rw [hr,hs]
    rfl
  · have hm := (Registry.mem_of_select hs).1
    rw [hs]
    dsimp only
    rw [← h.verify s hm config,← h.ending s hm config now memory]
    obtain ⟨text,hv,hr⟩ | ⟨error,hv,hr⟩ | ⟨hv,hr⟩ := hr
    · rw [hr,hv]
      rfl
    · rw [hr,hv]
      rfl
    · rw [hr,hv]
      unfold Scanner.attempt
      dsimp only
      cases (s.runJob e.world config now memory).1.ending.outcome s.name s.category config.timeout <;> rfl

section Serial

variable (blind : ∀ config : ScanConfig, view config.timeless = view config)

include blind

lemma verdict_runSerial (p : Pipeline) (timeout : Duration) (stage : Stage) (previous done : List ScanResult)
    (names : List String) (now : Nat) (memory : σ) :
    (e.runSerial (p.configFor timeout stage) previous done names now memory).verdict.timeless =
      e.registry.forecastSerial view outcome (p.configFor timeout stage) (previous.map ScanResult.timeless)
        (done.map ScanResult.timeless) names := by
  induction names generalizing done now memory with
  | nil => rfl
  | cons name names ih =>
    -- the scanner sees its parents without their times
    have hd : (e.registry.scan e.world (p.configFor timeout stage name (previous ++ done)) now
        memory).verdict.timeless = e.registry.forecast view outcome (p.configFor timeout stage name
          (previous.map ScanResult.timeless ++ done.map ScanResult.timeless)) := by
      rw [h.verdict_scan,← List.map_append]
      apply Registry.forecast_configFor_congr
      rw [← p.timeless_configFor,blind]
    unfold runSerial Registry.forecastSerial
    rw [← hd]
    cases hv : (e.registry.scan e.world (p.configFor timeout stage name (previous ++ done)) now
      memory).verdict with
    | completed x =>
      simp only [hv,Verdict.timeless,ih,List.map_append,List.map_cons,List.map_nil]
    | failed | crashed =>
      simp only [hv]
      rfl

end Serial

section Parallel

variable (index : Nat) (stage : String) (config : String → ScanConfig) (names : List String) (now : Nat)
  (memory : σ)

lemma verdicts_startAll : (e.startAll config now names memory).1.map (·.verdict.timeless) =
    names.map fun name => e.registry.forecast view outcome (config name) := by
  induction names generalizing memory with
  | nil => rfl
  | cons name names ih => simp only [startAll,List.map_cons,h.verdict_scan,ih]

/-- What a parallel stage finds is told in advance but for its order. -/
theorem perm_found_arrived :
    (((e.arrived index stage config names now memory).filterMap Attempt.result?).map ScanResult.timeless).Perm
      ((names.map fun name => e.registry.forecast view outcome (config name)).filterMap Verdict.result?) := by
  calc ((e.arrived index stage config names now memory).filterMap Attempt.result?).map ScanResult.timeless
      |>.Perm (((e.tasks stage config names now memory).filterMap Attempt.result?).map ScanResult.timeless) :=
        ((e.arrival.perm index _).filterMap _).map _
    _ = ((e.startAll config now names memory).1.filterMap Attempt.result?).map ScanResult.timeless := by
        rw [e.filterMap_result?_tasks]
    _ = ((e.startAll config now names memory).1.map (·.verdict.timeless)).filterMap Verdict.result? := by
        rw [Attempt.filterMap_result?_timeless]
    _ = _ := by rw [h.verdicts_startAll config names now memory]

/-- A parallel stage is without error exactly if all its scans are to complete. -/
theorem error_arrived_eq_none_iff :
    (e.arrived index stage config names now memory).findSome? Attempt.error? = none ↔
      ∀ name ∈ names, (e.registry.forecast view outcome (config name)).isCompleted = true := by
  calc (e.arrived index stage config names now memory).findSome? Attempt.error? = none
      ↔ ∀ a ∈ (e.startAll config now names memory).1, a.verdict.isCompleted = true :=
        e.findSome?_error?_arrived_eq_none_iff ..
    _ ↔ ∀ v ∈ (e.startAll config now names memory).1.map (·.verdict.timeless), v.isCompleted = true := by
        simp
    _ ↔ _ := by
        rw [h.verdicts_startAll config names now memory]
        simp

end Parallel

end Engine.Predictable

/-- What the scanners of `halfFailing` do, whatever they are told. -/
def halfFailingOutcome (name : String) (_ : ScanConfig) : Ending :=
  if name = "whois" then .failed (.scanFailed "whois" "refused") else .finished (.subdomains [])

lemma Engine.predictable_halfFailing (view : ScanConfig → ScanConfig) (arrival : Arrival Unit) :
    Predictable ⟨halfFailing.registry,.still,arrival⟩ view halfFailingOutcome where
  uncancelled := rfl
  verify s hs config := by
    simp only [halfFailing,still,List.mem_cons,List.not_mem_nil,or_false] at hs
    obtain rfl | rfl := hs <;> rfl
  ending s hs config now memory := by
    simp only [halfFailing,still,List.mem_cons,List.not_mem_nil,or_false] at hs
    obtain rfl | rfl := hs <;> rfl

lemma Engine.verifiesSafely_halfFailing : halfFailing.registry.VerifiesSafely := by
  intro s hs config text
  simp only [halfFailing,still,List.mem_cons,List.not_mem_nil,or_false] at hs
  obtain rfl | rfl := hs <;> simp [Scanner.doing]

/-- The scanners of `halfFailing`, where the first of several tasks arrives first. -/
def Engine.inTurn : Engine Unit where
  registry := halfFailing.registry
  world := .still
  arrival := ⟨fun _ attempts => attempts,fun _ attempts => .refl attempts⟩

end Recon
