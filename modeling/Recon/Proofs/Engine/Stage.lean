import Recon.Proofs.Engine.Attempt

/-! What a stage asks for and what it leaves. A serial stage is accounted for entry by entry, a parallel
stage by its attempts and the order in which they arrive. -/
namespace Recon

variable {σ : Type}

/-- The results of a stage that came to its end. -/
def StageRun.found (s : StageRun σ) : List ScanResult :=
  match s.verdict with
  | .ended results _ => results
  | .crashed _ => []

lemma StageRun.found_of_ended {s : StageRun σ} {results : List ScanResult} {error : Option ScanError}
    (h : s.verdict = .ended results error) : s.found = results := by
  simp only [found,h]

@[simp] lemma Pipeline.tool_configFor (p : Pipeline) (timeout : Duration) (stage : Stage) (name : String)
    (parents : List ScanResult) : (p.configFor timeout stage name parents).tool = some name := by
  simp [configFor,ScanConfig.tool]

namespace Engine

/-- The attempts of a serial stage: up to the first that does not complete, each where the one before it
ended. -/
def serialAttempts (e : Engine σ) (config : String → List ScanResult → ScanConfig)
    (previous done : List ScanResult) : List String → Nat → σ → List (Attempt σ)
  | [],_,_ => []
  | name :: names,now,memory =>
    let a := e.registry.scan e.world (config name (previous ++ done)) now memory
    match a.verdict with
    | .completed result => a :: e.serialAttempts config previous (done ++ [result]) names a.finish a.memory
    | .failed .. | .crashed _ => [a]

/-- The books of a serial stage over `names` that began with the results `before`: the attempts, what they
found and the error that ended the stage. -/
structure SerialAccount (e : Engine σ) (config : String → List ScanResult → ScanConfig)
    (before : List ScanResult) (names : List String) (attempts : List (Attempt σ)) (events : List Event)
    (found : List ScanResult) (error : Option ScanError) : Prop where
  /-- The attempt at an entry sees the results of the entries before it. -/
  asked : ∀ i a, attempts[i]? = some a → ∃ name start memory, names[i]? = some name ∧
    a = e.registry.scan e.world (config name (before ++ found.take i)) start memory
  /-- Every attempt was asked for once, and nothing else. -/
  dispatched : dispatches events =
    (names.take attempts.length).mapIdx fun i name => config name (before ++ found.take i)
  /-- Only the last attempt can fail, and without a failure there is one for each entry. -/
  ended : match error with
    | none => attempts.map (·.verdict) = found.map .completed ∧ attempts.length = names.length
    | some error => ∃ result, attempts.map (·.verdict) = found.map .completed ++ [.failed error result]

namespace SerialAccount

variable {e : Engine σ} {config : String → List ScanResult → ScanConfig} {before : List ScanResult}
  {names : List String} {attempts : List (Attempt σ)} {events : List Event} {found : List ScanResult}
  {error : Option ScanError}

lemma nil (e : Engine σ) (config : String → List ScanResult → ScanConfig) (before : List ScanResult) :
    e.SerialAccount config before [] [] [] [] none :=
  ⟨by simp,rfl,rfl,rfl⟩

lemma single {name : String} {a : Attempt σ} {start : Nat} {memory : σ} {cause : ScanError}
    {result : Option ScanResult}
    (ha : a = e.registry.scan e.world (config name before) start memory)
    (hv : a.verdict = .failed cause result) :
    e.SerialAccount config before (name :: names) [a] a.events [] (some cause) := by
  refine ⟨?_,?_,result,by simp [hv]⟩
  · intro i b hb
    obtain ⟨rfl,rfl⟩ : i = 0 ∧ a = b := by
      cases i with
      | zero => exact ⟨rfl,by simpa using hb⟩
      | succ i => simp at hb
    exact ⟨name,start,memory,rfl,by simpa using ha⟩
  · rw [ha,Registry.dispatches_scan]
    simp

lemma cons {name : String} {a : Attempt σ} {start : Nat} {memory : σ} {x : ScanResult}
    (ha : a = e.registry.scan e.world (config name before) start memory)
    (hv : a.verdict = .completed x)
    (h : e.SerialAccount config (before ++ [x]) names attempts events found error) :
    e.SerialAccount config before (name :: names) (a :: attempts) (a.events ++ events) (x :: found) error := by
  refine ⟨?_,?_,?_⟩
  · intro i b hb
    cases i with
    | zero =>
      obtain rfl : a = b := by simpa using hb
      exact ⟨name,start,memory,rfl,by simpa using ha⟩
    | succ i =>
      obtain ⟨next,start,memory,hn,hb⟩ := h.asked i b (by simpa using hb)
      exact ⟨next,start,memory,by simpa using hn,by simpa using hb⟩
  · rw [dispatches_append,ha,Registry.dispatches_scan,h.dispatched]
    simp [List.mapIdx_cons]
  · have he := h.ended
    cases error with
    | none => exact ⟨by simp [hv,he.1],by simp [he.2]⟩
    | some error =>
      obtain ⟨result,hr⟩ := he
      exact ⟨result,by simp [hv,hr]⟩

/-- The scanners of the results are the entries in front. -/
theorem scanners (h : e.SerialAccount config before names attempts events found error)
    (hconfig : ∀ name parents, (config name parents).tool = some name) :
    found.map (·.scanner) = names.take found.length := by
  apply List.ext_getElem?
  intro i
  by_cases hi : i < found.length
  · have hv : (attempts.map (·.verdict))[i]? = some (.completed found[i]) := by
      have he := h.ended
      cases error with
      | none => rw [he.1]; simp [hi]
      | some error =>
        obtain ⟨result,hr⟩ := he
        rw [hr,List.getElem?_append_left (by simpa using hi)]
        simp [hi]
    obtain ⟨a,ha,hx⟩ : ∃ a, attempts[i]? = some a ∧ a.verdict = .completed found[i] := by
      simpa [List.getElem?_map] using hv
    obtain ⟨name,start,memory,hn,rfl⟩ := h.asked i a ha
    have ht := (Registry.tool_of_result (Attempt.result?_of_completed hx)).1
    rw [hconfig] at ht
    rw [List.getElem?_take_of_lt hi,hn]
    simp [hi,ht]
  · rw [List.getElem?_eq_none (by simpa using hi),List.getElem?_eq_none]
    rw [List.length_take]
    omega

/-- Without error there is a result for each entry. -/
theorem scanners_eq (h : e.SerialAccount config before names attempts events found none)
    (hconfig : ∀ name parents, (config name parents).tool = some name) : found.map (·.scanner) = names := by
  obtain ⟨hv,hl⟩ := h.ended
  have hn : found.length = names.length := by
    rw [← hl]
    simpa using (congrArg List.length hv).symm
  have hs := h.scanners hconfig
  rwa [hn,List.take_length] at hs

/-- What a serial stage finds is what its attempts completed with. -/
theorem exists_attempt (h : e.SerialAccount config before names attempts events found error) {x : ScanResult}
    (hx : x ∈ found) : ∃ a ∈ attempts, a.verdict = .completed x := by
  have hm : Verdict.completed x ∈ attempts.map (·.verdict) := by
    have he := h.ended
    cases error with
    | none => rw [he.1]; exact List.mem_map.mpr ⟨x,hx,rfl⟩
    | some error =>
      obtain ⟨result,hr⟩ := he
      rw [hr]
      exact List.mem_append_left _ (List.mem_map.mpr ⟨x,hx,rfl⟩)
  exact List.mem_map.mp hm

lemma isCompleted (h : e.SerialAccount config before names attempts events found error)
    {x : ScanResult} (hx : x ∈ found) : x.isCompleted = true := by
  obtain ⟨a,ha,hv⟩ := h.exists_attempt hx
  obtain ⟨i,hi⟩ := List.getElem?_of_mem ha
  obtain ⟨name,start,memory,_,rfl⟩ := h.asked i a hi
  exact Registry.isCompleted_of_result (Attempt.result?_of_completed hv) (Attempt.error?_of_completed hv)

end SerialAccount

/-- A serial stage that comes to its end keeps books. -/
theorem runSerial_account (e : Engine σ) (config : String → List ScanResult → ScanConfig)
    (previous done : List ScanResult) (names : List String) (now : Nat) (memory : σ)
    {results : List ScanResult} {error : Option ScanError}
    (h : (e.runSerial config previous done names now memory).verdict = .ended results error) :
    ∃ found, results = done ++ found ∧ e.SerialAccount config (previous ++ done) names
      (e.serialAttempts config previous done names now memory)
      (e.runSerial config previous done names now memory).events found error := by
  induction names generalizing done now memory with
  | nil =>
    cases h
    exact ⟨[],by simp,.nil e config _⟩
  | cons name names ih =>
    unfold runSerial at h ⊢
    unfold serialAttempts
    cases hv : (e.registry.scan e.world (config name (previous ++ done)) now memory).verdict with
    | completed x =>
      simp only [hv] at h ⊢
      -- the entries after this one keep their books from `x` on
      obtain ⟨found,rfl,account⟩ := ih _ _ _ h
      refine ⟨x :: found,by simp,.cons rfl hv ?_⟩
      rw [List.append_assoc]
      exact account
    | failed cause result =>
      simp only [hv] at h ⊢
      cases h
      exact ⟨[],by simp,.single rfl hv⟩
    | crashed text =>
      simp only [hv] at h
      cases h

lemma serial_account {e : Engine σ} {config : String → List ScanResult → ScanConfig}
    {previous : List ScanResult} {names : List String} {now : Nat} {memory : σ} {found : List ScanResult}
    {error : Option ScanError}
    (h : (e.runSerial config previous [] names now memory).verdict = .ended found error) :
    e.SerialAccount config previous names (e.serialAttempts config previous [] names now memory)
      (e.runSerial config previous [] names now memory).events found error := by
  obtain ⟨own,hf,account⟩ := e.runSerial_account config previous [] names now memory h
  rw [List.nil_append] at hf
  rw [List.append_nil] at account
  exact hf ▸ account

lemma mem_dispatches_runSerial (e : Engine σ) (config : String → List ScanResult → ScanConfig)
    (previous done : List ScanResult) (names : List String) (now : Nat) (memory : σ) {c : ScanConfig}
    (h : c ∈ dispatches (e.runSerial config previous done names now memory).events) :
    ∃ name ∈ names, ∃ parents, c = config name parents := by
  induction names generalizing done now memory with
  | nil => simp [runSerial] at h
  | cons name names ih =>
    unfold runSerial at h
    cases hv : (e.registry.scan e.world (config name (previous ++ done)) now memory).verdict with
    | completed x =>
      simp only [hv,dispatches_append,Registry.dispatches_scan,List.mem_append,List.mem_singleton] at h
      obtain h | h := h
      · exact ⟨name,by simp,_,h⟩
      · obtain ⟨next,hn,hc⟩ := ih _ _ _ h
        exact ⟨next,by simp [hn],hc⟩
    | failed | crashed =>
      simp only [hv,Registry.dispatches_scan,List.mem_singleton] at h
      exact ⟨name,by simp,_,h⟩

lemma runSerial_ne_crashed (e : Engine σ) (safe : e.registry.VerifiesSafely)
    (config : String → List ScanResult → ScanConfig) (previous done : List ScanResult) (names : List String)
    (now : Nat) (memory : σ) (text : String) :
    (e.runSerial config previous done names now memory).verdict ≠ .crashed text := by
  induction names generalizing done now memory with
  | nil => simp [runSerial]
  | cons name names ih =>
    unfold runSerial
    cases hv : (e.registry.scan e.world (config name (previous ++ done)) now memory).verdict with
    | completed x => simpa only [hv] using ih _ _ _
    | failed cause result => simp [hv]
    | crashed text => exact absurd hv (safe.verdict_ne_crashed text)

/-- The attempts of a parallel stage as its tasks end, a crash being a failure. -/
def tasks (e : Engine σ) (stage : String) (config : String → ScanConfig) (names : List String) (now : Nat)
    (memory : σ) : List (Attempt σ) :=
  (e.startAll config now names memory).1.mapIdx fun i a => a.asTask stage i

/-- The tasks in the order in which they are over. -/
def arrived (e : Engine σ) (index : Nat) (stage : String) (config : String → ScanConfig)
    (names : List String) (now : Nat) (memory : σ) : List (Attempt σ) :=
  e.arrival.order index (e.tasks stage config names now memory)

section Parallel

variable (e : Engine σ) (index : Nat) (stage : String) (config : String → ScanConfig) (names : List String)
  (now : Nat) (memory : σ)

lemma runParallel_verdict : (e.runParallel index stage config names now memory).verdict =
    .ended ((e.arrived index stage config names now memory).filterMap Attempt.result?)
      ((e.arrived index stage config names now memory).findSome? Attempt.error?) := rfl

lemma startAll_length : (e.startAll config now names memory).1.length = names.length := by
  induction names generalizing memory with
  | nil => rfl
  | cons name names ih => simp [startAll,ih]

/-- Each entry is asked for where its name stands, and all at one moment. -/
theorem startAll_asked {i : Nat} {a : Attempt σ} (h : (e.startAll config now names memory).1[i]? = some a) :
    ∃ name start, names[i]? = some name ∧ a = e.registry.scan e.world (config name) now start := by
  induction names generalizing memory i with
  | nil => simp [startAll] at h
  | cons name names ih =>
    cases i with
    | zero =>
      obtain rfl := Option.some.inj h
      exact ⟨name,memory,rfl,rfl⟩
    | succ i => exact ih _ h

lemma dispatches_startAll :
    dispatches ((e.startAll config now names memory).1.flatMap (·.events)) = names.map config := by
  induction names generalizing memory with
  | nil => rfl
  | cons name names ih =>
    simp only [startAll,List.flatMap_cons,dispatches_append,Registry.dispatches_scan,ih]
    rfl

lemma mem_tasks {a : Attempt σ} (h : a ∈ e.tasks stage config names now memory) :
    ∃ name ∈ names, ∃ i start, a = (e.registry.scan e.world (config name) now start).asTask stage i := by
  unfold tasks at h
  obtain ⟨i,hi,rfl⟩ := List.mem_mapIdx.mp h
  obtain ⟨name,start,hn,ha⟩ := e.startAll_asked config names now memory (List.getElem?_eq_getElem hi)
  exact ⟨name,List.mem_of_getElem? hn,i,start,by rw [ha]⟩

lemma exists_task {name : String} (h : name ∈ names) :
    ∃ i start, (e.registry.scan e.world (config name) now start).asTask stage i ∈
      e.tasks stage config names now memory := by
  obtain ⟨i,hi⟩ := List.getElem?_of_mem h
  have hl : i < (e.startAll config now names memory).1.length := by
    rw [startAll_length]
    exact (List.getElem?_eq_some_iff.mp hi).1
  obtain ⟨other,start,hn,ha⟩ := e.startAll_asked config names now memory (List.getElem?_eq_getElem hl)
  rw [hi] at hn
  cases hn
  exact ⟨i,start,List.mem_mapIdx.mpr ⟨i,hl,by rw [ha]⟩⟩

lemma mem_arrived {a : Attempt σ} : a ∈ e.arrived index stage config names now memory ↔
    a ∈ e.tasks stage config names now memory :=
  (e.arrival.perm index _).mem_iff

end Parallel

section Stage

variable (e : Engine σ) (p : Pipeline) (timeout : Duration) (index : Nat) (stage : Stage)
  (previous : List ScanResult) (now : Nat) (memory : σ)

lemma runStage_of_parallel (h : stage.parallel = true) :
    e.runStage p timeout index stage previous now memory = e.runParallel index stage.name
      (fun name => p.configFor timeout stage name previous) stage.scanners now memory := by
  simp only [runStage,h,if_true]

lemma runStage_of_serial (h : stage.parallel = false) :
    e.runStage p timeout index stage previous now memory =
      e.runSerial (p.configFor timeout stage) previous [] stage.scanners now memory := by
  simp only [runStage,h,Bool.false_eq_true,if_false]

lemma runStage_ended (safe : e.registry.VerifiesSafely) : ∃ error,
    (e.runStage p timeout index stage previous now memory).verdict =
      .ended (e.runStage p timeout index stage previous now memory).found error := by
  cases hv : (e.runStage p timeout index stage previous now memory).verdict with
  | ended found error => exact ⟨error,by rw [StageRun.found_of_ended hv]⟩
  | crashed text =>
    cases hp : stage.parallel with
    | true =>
      rw [e.runStage_of_parallel _ _ _ _ _ _ _ hp] at hv
      cases hv
    | false =>
      rw [e.runStage_of_serial _ _ _ _ _ _ _ hp] at hv
      exact absurd hv (e.runSerial_ne_crashed safe _ _ _ _ _ _ text)

/-- A stage asks for scans by its own scanners only, also when it crashes. -/
theorem tool_of_dispatches {config : ScanConfig}
    (h : config ∈ dispatches (e.runStage p timeout index stage previous now memory).events) :
    ∃ name ∈ stage.scanners, config.tool = some name := by
  unfold runStage at h
  split at h
  · have hd := e.dispatches_startAll (fun name => p.configFor timeout stage name previous) stage.scanners
      now memory
    change config ∈ dispatches ((e.startAll _ now stage.scanners memory).1.flatMap (·.events)) at h
    rw [hd] at h
    obtain ⟨name,hn,rfl⟩ := List.mem_map.mp h
    exact ⟨name,hn,by simp⟩
  · obtain ⟨name,hn,parents,rfl⟩ := e.mem_dispatches_runSerial _ _ _ _ _ _ h
    exact ⟨name,hn,by simp⟩

/-- What a stage finds bears the names of its scanners. -/
theorem scanner_mem_of_found {x : ScanResult}
    (h : x ∈ (e.runStage p timeout index stage previous now memory).found) : x.scanner ∈ stage.scanners := by
  unfold runStage at h
  split at h
  · rw [StageRun.found_of_ended (e.runParallel_verdict ..)] at h
    obtain ⟨a,ha,hx⟩ := List.mem_filterMap.mp h
    obtain ⟨name,hn,i,start,rfl⟩ := e.mem_tasks _ _ _ _ _ ((e.mem_arrived ..).mp ha)
    rw [Attempt.result?_asTask] at hx
    have ht := (Registry.tool_of_result hx).1
    rw [Pipeline.tool_configFor] at ht
    exact Option.some.inj ht ▸ hn
  · cases hv : (e.runSerial (p.configFor timeout stage) previous [] stage.scanners now memory).verdict with
    | crashed text => simp [StageRun.found,hv] at h
    | ended results error =>
      rw [StageRun.found_of_ended hv] at h
      have hs := (serial_account hv).scanners fun name parents => p.tool_configFor timeout stage name parents
      have hx : x.scanner ∈ results.map (·.scanner) := List.mem_map.mpr ⟨x,h,rfl⟩
      rw [hs] at hx
      exact List.mem_of_mem_take hx

/-- A stage without error leaves a completed result of each of its scanners. -/
theorem exists_completed_of_ended {found : List ScanResult} {name : String}
    (h : (e.runStage p timeout index stage previous now memory).verdict = .ended found none)
    (hn : name ∈ stage.scanners) : ∃ x ∈ found, x.isCompleted = true ∧ x.scanner = name := by
  unfold runStage at h
  split at h
  · rw [runParallel_verdict] at h
    injection h with hf he
    subst hf
    obtain ⟨i,start,ha⟩ := e.exists_task stage.name
      (fun name => p.configFor timeout stage name previous) stage.scanners now memory hn
    have ha' := (e.mem_arrived index ..).mpr ha
    obtain ⟨x,hx⟩ := Attempt.completed_of_asTask (List.findSome?_eq_none_iff.mp he _ ha')
    have hr := Attempt.result?_of_completed hx
    refine ⟨x,List.mem_filterMap.mpr ⟨_,ha',by rw [Attempt.result?_asTask,hr]⟩,
      Registry.isCompleted_of_result hr (Attempt.error?_of_completed hx),?_⟩
    have ht := (Registry.tool_of_result hr).1
    rw [Pipeline.tool_configFor] at ht
    exact (Option.some.inj ht).symm
  · have account := serial_account h
    rw [← account.scanners_eq fun name parents => p.tool_configFor timeout stage name parents] at hn
    obtain ⟨x,hx,hxn⟩ := List.mem_map.mp hn
    exact ⟨x,hx,account.isCompleted hx,hxn⟩

end Stage
end Engine
end Recon
