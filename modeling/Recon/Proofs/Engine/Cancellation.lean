import Recon.Proofs.Engine.Fate
import Recon.Proofs.Engine.Record

/-! A run that is given up, in whatever state it has come to. No scanner is started from then on; what was
found before is kept, and what is still to come says that it was given up. -/
namespace Recon

variable {σ : Type}

namespace Engine

/-- The same engine in a world in which nobody gives up. -/
def patient (e : Engine σ) : Engine σ := { e with world := e.world.patient }

/-- A scan that is over before is what it would have been. -/
theorem scan_same (e : Engine σ) (safe : e.registry.VerifiesSafely) {c : Nat} (given : e.world.cancelAt = some c)
    {config : ScanConfig} {now : Nat} {memory : σ}
    (before : (e.registry.scan e.world config now memory).finish < c) :
    e.patient.registry.scan e.patient.world config now memory = e.registry.scan e.world config now memory :=
  ((e.registry.fate config now memory safe given).same_of_finish before).symm

lemma le_lastFinish (now : Nat) (attempts : List (Attempt σ)) :
    now ≤ lastFinish now attempts ∧ ∀ a ∈ attempts, a.finish ≤ lastFinish now attempts := by
  induction attempts generalizing now with
  | nil => exact ⟨Nat.le_refl now,by simp⟩
  | cons a attempts ih =>
    obtain ⟨hn,ha⟩ := ih (max now a.finish)
    refine ⟨Nat.le_trans (Nat.le_max_left now a.finish) hn,?_⟩
    intro b hb
    obtain rfl | hb := List.mem_cons.mp hb
    · exact Nat.le_trans (Nat.le_max_right now b.finish) hn
    · exact ha b hb

section Times

variable (e : Engine σ) {c : Nat} (given : e.world.cancelAt = some c)
  (config : String → List ScanResult → ScanConfig) (previous done : List ScanResult) (names : List String)
  (now : Nat) (memory : σ)

include given

/-- The scans of a serial stage come after its start. -/
theorem serialAttempts_start {a : Attempt σ}
    (ha : a ∈ e.serialAttempts config previous done names now memory) :
    ∃ asked start remembered, now ≤ start ∧ a = e.registry.scan e.world asked start remembered := by
  induction names generalizing done now memory with
  | nil => simp [serialAttempts] at ha
  | cons name names ih =>
    unfold serialAttempts at ha
    cases hv : (e.registry.scan e.world (config name (previous ++ done)) now memory).verdict with
    | completed x =>
      simp only [hv,List.mem_cons] at ha
      obtain rfl | ha := ha
      · exact ⟨_,now,memory,Nat.le_refl now,rfl⟩
      · obtain ⟨asked,start,remembered,hs,rest⟩ := ih _ _ _ ha
        exact ⟨asked,start,remembered,Nat.le_trans (Registry.le_finish_scan given) hs,rest⟩
    | failed | crashed =>
      simp only [hv,List.mem_singleton] at ha
      subst ha
      exact ⟨_,now,memory,Nat.le_refl now,rfl⟩

lemma le_finish_runSerial : now ≤ (e.runSerial config previous done names now memory).finish := by
  induction names generalizing done now memory with
  | nil => exact Nat.le_refl now
  | cons name names ih =>
    have first : now ≤ (e.registry.scan e.world (config name (previous ++ done)) now memory).finish :=
      Registry.le_finish_scan given
    unfold runSerial
    cases hv : (e.registry.scan e.world (config name (previous ++ done)) now memory).verdict with
    | completed x =>
      simp only [hv]
      exact Nat.le_trans first (ih ..)
    | failed | crashed =>
      simp only [hv]
      exact first

lemma le_finish_runStage (p : Pipeline) (timeout : Duration) (index : Nat) (stage : Stage) :
    now ≤ (e.runStage p timeout index stage previous now memory).finish := by
  cases hm : stage.parallel with
  | true =>
    rw [e.runStage_of_parallel _ _ _ _ _ _ _ hm]
    exact (le_lastFinish now _).1
  | false =>
    rw [e.runStage_of_serial _ _ _ _ _ _ _ hm]
    exact e.le_finish_runSerial given ..

/-- A stage starts when the run has come to it. -/
theorem le_start (p : Pipeline) (timeout : Duration) (stages : List Stage) (index : Nat) (results : List ScanResult)
    {v : Visit σ} (hv : v ∈ e.visits p timeout stages index results now memory) : now ≤ v.start := by
  induction stages generalizing index results now memory with
  | nil => simp [visits] at hv
  | cons stage stages ih =>
    unfold visits at hv
    split at hv
    · obtain rfl | hv := List.mem_cons.mp hv
      · exact Nat.le_refl now
      · split at hv
        · exact Nat.le_trans (e.le_finish_runStage given results now memory p timeout index stage) (ih _ _ _ _ hv)
        · simp at hv
    · simp at hv

/-- The scans of a stage come after its start. -/
theorem attempts_start {p : Pipeline} {timeout : Duration} {v : Visit σ} {a : Attempt σ}
    (ha : a ∈ e.attempts p timeout v) :
    ∃ config start memory, v.start ≤ start ∧ a = e.registry.scan e.world config start memory := by
  cases hm : v.stage.parallel with
  | true =>
    rw [attempts_of_parallel hm] at ha
    obtain ⟨i,hi⟩ := List.getElem?_of_mem ha
    obtain ⟨name,memory,_,rfl⟩ := e.startAll_asked _ _ _ _ hi
    exact ⟨_,v.start,memory,Nat.le_refl v.start,rfl⟩
  | false =>
    rw [attempts_of_serial hm] at ha
    exact e.serialAttempts_start given _ _ _ _ _ _ ha

end Times

section Serial

variable (e : Engine σ) (safe : e.registry.VerifiesSafely) {c : Nat} (given : e.world.cancelAt = some c)
  (config : String → List ScanResult → ScanConfig) (previous done : List ScanResult) (names : List String)
  (now : Nat) (memory : σ)

include safe given

/-- A serial stage that is over before is what it would have been. -/
theorem runSerial_same (before : (e.runSerial config previous done names now memory).finish < c) :
    e.runSerial config previous done names now memory =
      e.patient.runSerial config previous done names now memory := by
  induction names generalizing done now memory with
  | nil => rfl
  | cons name names ih =>
    have first := e.registry.fate (config name (previous ++ done)) now memory safe given
    unfold runSerial at before ⊢
    cases hv : (e.registry.scan e.world (config name (previous ++ done)) now memory).verdict with
    | completed x =>
      simp only [hv] at before
      rw [e.scan_same safe given (first.before_of_completed hv)]
      simp only [hv,ih _ _ _ before]
    | failed error result =>
      simp only [hv] at before
      rw [e.scan_same safe given before]
      simp only [hv]
    | crashed text => exact absurd hv (safe.verdict_ne_crashed text)

/-- What a serial stage has found when it is given up is the front of what it would have found. -/
theorem found_runSerial_prefix {found : List ScanResult} {error : Option ScanError}
    (ended : (e.runSerial config previous done names now memory).verdict = .ended found error) :
    ∃ whole cause, (e.patient.runSerial config previous done names now memory).verdict = .ended whole cause ∧
      found <+: whole := by
  induction names generalizing done now memory with
  | nil =>
    obtain ⟨rfl,_⟩ := StageVerdict.ended.inj ended
    exact ⟨done,none,rfl,List.prefix_refl done⟩
  | cons name names ih =>
    have first := e.registry.fate (config name (previous ++ done)) now memory safe given
    cases hv : (e.registry.scan e.world (config name (previous ++ done)) now memory).verdict with
    | completed x =>
      unfold runSerial at ended ⊢
      rw [e.scan_same safe given (first.before_of_completed hv)]
      simp only [hv] at ended ⊢
      exact ih _ _ _ ended
    | failed cause result =>
      unfold runSerial at ended
      simp only [hv] at ended
      obtain ⟨rfl,_⟩ := StageVerdict.ended.inj ended
      cases hw : (e.patient.runSerial config previous done (name :: names) now memory).verdict with
      | ended whole cause =>
        obtain ⟨more,hm,_⟩ := e.patient.runSerial_account config previous done (name :: names) now memory hw
        exact ⟨whole,cause,rfl,⟨more,hm.symm⟩⟩
      | crashed text => exact absurd hw (e.patient.runSerial_ne_crashed safe _ _ _ _ _ _ text)
    | crashed text => exact absurd hv (safe.verdict_ne_crashed text)

/-- From then on a serial stage starts nothing and finds nothing; it fails unless it is through. -/
theorem runSerial_after (after : c ≤ now) :
    entered (e.runSerial config previous done names now memory).events = [] ∧
      ∃ error, (e.runSerial config previous done names now memory).verdict = .ended done error ∧
        (error = none ↔ names = []) := by
  cases names with
  | nil => exact ⟨rfl,none,rfl,by simp⟩
  | cons name names =>
    have first := e.registry.fate (config name (previous ++ done)) now memory safe given
    obtain ⟨⟨error,result,hv⟩,quiet,_⟩ := first.failed_of_after after
    unfold runSerial
    simp only [hv]
    exact ⟨quiet,some error,rfl,by simp⟩

end Serial

/-- Scans that start together and are all over before are what they would have been. -/
theorem startAll_same (e : Engine σ) (safe : e.registry.VerifiesSafely) {c : Nat}
    (given : e.world.cancelAt = some c) (config : String → ScanConfig) (now : Nat) (names : List String)
    (memory : σ) (before : ∀ a ∈ (e.startAll config now names memory).1, a.finish < c) :
    e.startAll config now names memory = e.patient.startAll config now names memory := by
  induction names generalizing memory with
  | nil => rfl
  | cons name names ih =>
    simp only [startAll,List.forall_mem_cons] at before ⊢
    obtain ⟨hf,hr⟩ := before
    rw [e.scan_same safe given hf,ih _ hr]

section Stage

variable (e : Engine σ) (safe : e.registry.VerifiesSafely) {c : Nat} (given : e.world.cancelAt = some c)
  (p : Pipeline) (timeout : Duration)

include safe given

section Run

variable (index : Nat) (stage : Stage) (previous : List ScanResult) (now : Nat) (memory : σ)

/-- A stage that is over before is what it would have been. -/
theorem runStage_same (before : (e.runStage p timeout index stage previous now memory).finish < c) :
    e.runStage p timeout index stage previous now memory =
      e.patient.runStage p timeout index stage previous now memory := by
  cases hm : stage.parallel with
  | true =>
    rw [e.runStage_of_parallel _ _ _ _ _ _ _ hm] at before
    rw [e.runStage_of_parallel _ _ _ _ _ _ _ hm,e.patient.runStage_of_parallel _ _ _ _ _ _ _ hm]
    have same := e.startAll_same safe given (fun name => p.configFor timeout stage name previous) now stage.scanners
      memory fun a ha => Nat.lt_of_le_of_lt ((le_lastFinish now _).2 a ha) before
    unfold runParallel
    rw [same]
    rfl
  | false =>
    rw [e.runStage_of_serial _ _ _ _ _ _ _ hm] at before
    rw [e.runStage_of_serial _ _ _ _ _ _ _ hm,e.patient.runStage_of_serial _ _ _ _ _ _ _ hm]
    exact e.runSerial_same safe given _ _ _ _ _ _ before

end Run

section Visits

variable (stages : List Stage) (index : Nat) (results : List ScanResult) (now : Nat) (memory : σ)

/-- The stages that are over before are those that would have been. -/
theorem visits_same {k : Nat} {v : Visit σ} (hv : (e.visits p timeout stages index results now memory)[k]? = some v)
    (before : v.run.finish < c) : (e.patient.visits p timeout stages index results now memory)[k]? = some v := by
  induction stages generalizing index results now memory k with
  | nil => simp [visits] at hv
  | cons stage stages ih =>
    unfold visits at hv ⊢
    split at hv
    · next met =>
      rw [if_pos met]
      cases k with
      | zero =>
        obtain rfl := Option.some.inj hv
        rw [← e.runStage_same safe given p timeout index stage results now memory before]
        rfl
      | succ k =>
        rw [List.getElem?_cons_succ] at hv ⊢
        split at hv
        · next goes =>
          -- the stage in front is over before this one starts
          have hs := e.le_start given _ _ p timeout stages (index + 1) _ (List.mem_of_getElem? hv)
          obtain ⟨i,ran⟩ : ∃ i, v.run = e.runStage p timeout i v.stage v.previous v.start v.memory :=
            ⟨_,((e.runStages_course p timeout ..).visit hv).2.2.1⟩
          have hf := e.le_finish_runStage given v.previous v.start v.memory p timeout i v.stage
          rw [← ran] at hf
          have same := e.runStage_same safe given p timeout index stage results now memory (by omega)
          rw [← same,if_pos goes]
          exact ih _ _ _ _ hv
        · simp at hv
    · simp at hv

end Visits
end Stage

/-- A stage that starts too late: nothing is started, a serial stage finds nothing, and a parallel one has for
each entry that is accepted a result that says that it was given up. -/
structure Barren (e : Engine σ) (p : Pipeline) (timeout : Duration) (v : Visit σ) : Prop where
  quiet : entered v.run.events = []
  serial : v.stage.parallel = false → v.run.found = []
  parallel : v.stage.parallel = true → (v.run.found.map (·.scanner)).Perm
    (v.stage.scanners.filter fun name => e.registry.Accepts (p.configFor timeout v.stage name v.previous))
  givenUp : ∀ x ∈ v.run.found, x.GivenUp

/-- The results of scans that start together are of the entries that are accepted, in their order. -/
theorem scanners_startAll_accepted (e : Engine σ) (config : String → ScanConfig)
    (named : ∀ name, (config name).tool = some name) (names : List String) (now : Nat) (memory : σ) :
    ((e.startAll config now names memory).1.filterMap Attempt.result?).map (·.scanner) =
      names.filter fun name => e.registry.Accepts (config name) := by
  induction names generalizing memory with
  | nil => rfl
  | cons name names ih =>
    simp only [startAll]
    obtain ⟨accepts,x,hx,tool,_⟩ | ⟨declined,hn,_⟩ :=
      e.registry.scan_result_cases e.world (config name) now memory
    · rw [named] at tool
      rw [List.filterMap_cons_some hx,List.map_cons,ih,List.filter_cons_of_pos (by simpa using accepts),
        Option.some.inj tool]
    · rw [List.filterMap_cons_none hn,ih,List.filter_cons_of_neg (by simpa using declined)]

section Stage

variable {e : Engine σ} (safe : e.registry.VerifiesSafely) {c : Nat} (given : e.world.cancelAt = some c)
  {p : Pipeline} {timeout : Duration} {index : Nat} {v : Visit σ}
  (ran : v.run = e.runStage p timeout index v.stage v.previous v.start v.memory)

include safe given

/-- Each scan of a stage has its fate. -/
theorem attempts_fate {a : Attempt σ} (ha : a ∈ e.attempts p timeout v) :
    ∃ config start memory, v.start ≤ start ∧ a = e.registry.scan e.world config start memory ∧
      e.registry.Fate e.world c config start memory a := by
  obtain ⟨config,start,memory,hs,rfl⟩ := e.attempts_start given ha
  exact ⟨config,start,memory,hs,rfl,e.registry.fate config start memory safe given⟩

include ran

lemma barren_of_after (after : c ≤ v.start) : e.Barren p timeout v where
  quiet := by
    rw [events_of_visit ran,entered_flatMap,List.flatMap_eq_nil_iff]
    intro a ha
    obtain ⟨_,_,_,hs,_,fate⟩ := attempts_fate safe given ha
    exact (fate.failed_of_after (Nat.le_trans after hs)).2.1
  serial hm := by
    rw [e.runStage_of_serial _ _ _ _ _ _ _ hm] at ran
    obtain ⟨_,error,ended,_⟩ := e.runSerial_after safe given (p.configFor timeout v.stage) v.previous []
      v.stage.scanners v.start v.memory after
    rw [← ran] at ended
    exact StageRun.found_of_ended ended
  parallel hm := by
    obtain ⟨_,_,_,parallel⟩ := Accounted.of_safe safe ran
    have account := parallel hm
    rw [account.results,← e.scanners_startAll_accepted (fun name => p.configFor timeout v.stage name v.previous)
      (fun name => p.tool_configFor ..) v.stage.scanners v.start v.memory]
    exact (account.arrival.filterMap Attempt.result?).map (·.scanner)
  givenUp x hx := by
    obtain ⟨a,ha,hr⟩ := exists_attempt_of_found ran hx
    obtain ⟨_,_,_,hs,_,fate⟩ := attempts_fate safe given ha
    obtain ⟨_,_,finish⟩ := fate.failed_of_after (Nat.le_trans after hs)
    obtain before | ⟨givenUp,_⟩ := fate.result_cases hr
    · omega
    · exact givenUp

/-- What is found is told by scans that were over before, or says that it was given up. -/
theorem found_cases {x : ScanResult} (hx : x ∈ v.run.found) : ∃ a ∈ e.attempts p timeout v,
    a.result? = some x ∧ (a.finish < c ∨ (x.GivenUp ∧ c ≤ a.finish)) := by
  obtain ⟨a,ha,hr⟩ := exists_attempt_of_found ran hx
  obtain ⟨_,_,_,_,_,fate⟩ := attempts_fate safe given ha
  obtain before | ⟨givenUp,_,after⟩ := fate.result_cases hr
  · exact ⟨a,ha,hr,Or.inl before⟩
  · exact ⟨a,ha,hr,Or.inr ⟨givenUp,after⟩⟩

lemma found_prefix_of_serial (hm : v.stage.parallel = false) :
    v.run.found <+: (e.patient.runStage p timeout index v.stage v.previous v.start v.memory).found := by
  obtain ⟨error,ended⟩ := e.runStage_ended p timeout index v.stage v.previous v.start v.memory safe
  rw [← ran] at ended
  rw [e.runStage_of_serial _ _ _ _ _ _ _ hm] at ran
  rw [e.patient.runStage_of_serial _ _ _ _ _ _ _ hm]
  rw [ran] at ended ⊢
  obtain ⟨whole,cause,hw,hf⟩ := e.found_runSerial_prefix safe given _ _ _ _ _ _ ended
  rwa [StageRun.found_of_ended hw]

end Stage

/-- What becomes of the rest of a run, in whatever state it has come to, when the caller gives up at `c`. -/
structure Curbed (e : Engine σ) (p : Pipeline) (timeout : Duration) (c : Nat) (stages : List Stage) (index : Nat)
    (results : List ScanResult) (now : Nat) (memory : σ) : Prop where
  /-- What was found before stands in front of what the stages still find. -/
  handed : (e.runStages p timeout stages index results now memory).verdict.results? =
    some (results ++ accumulated (e.visits p timeout stages index results now memory))
  shown : (e.runStages p timeout stages index results now memory).events =
    (e.visits p timeout stages index results now memory).flatMap fun v =>
      (e.attempts p timeout v).flatMap (·.events)
  books : ∀ (k : Nat) (v : Visit σ), (e.visits p timeout stages index results now memory)[k]? = some v →
    e.Accounted p timeout (index + k) v
  fate : ∀ v ∈ e.visits p timeout stages index results now memory, ∀ a ∈ e.attempts p timeout v,
    ∃ config start memory, v.start ≤ start ∧ a = e.registry.scan e.world config start memory ∧
      e.registry.Fate e.world c config start memory a
  /-- No other result comes from then on. -/
  found : ∀ v ∈ e.visits p timeout stages index results now memory, ∀ x ∈ v.run.found,
    ∃ a ∈ e.attempts p timeout v, a.result? = some x ∧ (a.finish < c ∨ (x.GivenUp ∧ c ≤ a.finish))
  /-- The stages that are over before are those of a run that nobody gives up. -/
  front : ∀ (k : Nat) (v : Visit σ), (e.visits p timeout stages index results now memory)[k]? = some v →
    v.run.finish < c → (e.patient.visits p timeout stages index results now memory)[k]? = some v
  /-- A serial stage keeps the front of what it would have found. -/
  serial : ∀ (k : Nat) (v : Visit σ), (e.visits p timeout stages index results now memory)[k]? = some v →
    v.stage.parallel = false → v.run.found <+:
      (e.patient.runStage p timeout (index + k) v.stage v.previous v.start v.memory).found
  barren : ∀ v ∈ e.visits p timeout stages index results now memory, c ≤ v.start → e.Barren p timeout v

/-- Without crashes a run hands out all that was found. -/
theorem Course.handed_of_safe {e : Engine σ} {p : Pipeline} {timeout : Duration} {stages : List Stage} {index : Nat}
    {results : List ScanResult} {now : Nat} {memory : σ} {visits : List (Visit σ)} {verdict : PipelineVerdict}
    (h : e.Course p timeout stages index results now memory visits verdict) (safe : e.registry.VerifiesSafely) :
    verdict.results? = some (results ++ accumulated visits) := by
  induction h with
  | finished | unmet => simp [PipelineVerdict.results?]
  | crashed met ran crashed =>
    obtain ⟨error,ended⟩ := e.runStage_ended _ _ _ _ _ _ _ safe
    rw [← ran,crashed] at ended
    cases ended
  | stopped met ran ended stops => simp [PipelineVerdict.results?]
  | next met ran goes rest ih => rw [ih,accumulated_cons,List.append_assoc]

lemma runStages_curbed (e : Engine σ) (safe : e.registry.VerifiesSafely) {c : Nat}
    (given : e.world.cancelAt = some c) (p : Pipeline) (timeout : Duration) (stages : List Stage) (index : Nat)
    (results : List ScanResult) (now : Nat) (memory : σ) :
    e.Curbed p timeout c stages index results now memory := by
  have course := e.runStages_course p timeout stages index results now memory
  have ran {k : Nat} {v : Visit σ} (hv : (e.visits p timeout stages index results now memory)[k]? = some v) :
      v.run = e.runStage p timeout (index + k) v.stage v.previous v.start v.memory :=
    (course.visit hv).2.2.1
  constructor
  case handed => exact course.handed_of_safe safe
  case shown =>
    rw [e.events_runStages]
    apply List.flatMap_congr
    intro v hv
    obtain ⟨k,hk⟩ := List.getElem?_of_mem hv
    exact events_of_visit (ran hk)
  case books => exact fun k v hv => .of_safe safe (ran hv)
  case fate => exact fun v _ a ha => attempts_fate safe given ha
  case found =>
    intro v hv x hx
    obtain ⟨k,hk⟩ := List.getElem?_of_mem hv
    exact found_cases safe given (ran hk) hx
  case front => exact fun k v hv before => e.visits_same safe given p timeout _ _ _ _ _ hv before
  case serial => exact fun k v hv hm => found_prefix_of_serial safe given (ran hv) hm
  case barren =>
    intro v hv after
    obtain ⟨k,hk⟩ := List.getElem?_of_mem hv
    exact barren_of_after safe given (ran hk) after

/-- Giving up is final. A scan that is over by then is what it would have been, one under way ends there and then
and one that comes later is not started: both fail with a result that says so. A serial stage that has come to
that time starts nothing more and keeps what it has found, and the tasks of a parallel stage that are still to be
started fail; so does the rest of a run, in whatever state it is, and what its stages still find says that it was
given up. If the caller has given up before the run, nothing is started, serial
stages find nothing and parallel stages one such result for each entry that is accepted. -/
theorem giving_up_is_final (e : Engine σ) (safe : e.registry.VerifiesSafely) {c : Nat}
    (given : e.world.cancelAt = some c) :
    (∀ config now memory, e.registry.Fate e.world c config now memory
      (e.registry.scan e.world config now memory)) ∧
    (∀ config previous done names now memory, c ≤ now →
      entered (e.runSerial config previous done names now memory).events = [] ∧
      ∃ error, (e.runSerial config previous done names now memory).verdict = .ended done error ∧
        (error = none ↔ names = [])) ∧
    (∀ config names now memory, c ≤ now → ∀ a ∈ (e.startAll config now names memory).1,
      (∃ error result, a.verdict = .failed error result) ∧ entered a.events = []) ∧
    (∀ p timeout stages index results now memory, e.Curbed p timeout c stages index results now memory) ∧
    ∀ policy p now memory, c ≤ now →
      (e.runPipeline policy p now memory).verdict.results? =
        some (accumulated (e.visited policy p now memory)) ∧
      entered (e.runPipeline policy p now memory).events = [] ∧
      ∀ v ∈ e.visited policy p now memory, e.Barren p (policy.resolve p) v := by
  refine ⟨fun config now memory => e.registry.fate config now memory safe given,
    fun config previous done names now memory => e.runSerial_after safe given config previous done names now memory,
    ?_,fun p timeout stages index results now memory => e.runStages_curbed safe given p timeout stages index results
      now memory,?_⟩
  · intro config names now memory after a ha
    obtain ⟨i,hi⟩ := List.getElem?_of_mem ha
    obtain ⟨name,start,_,rfl⟩ := e.startAll_asked config names now memory hi
    have fate := e.registry.fate (config name) now start safe given
    obtain ⟨failed,quiet,_⟩ := fate.failed_of_after after
    exact ⟨failed,quiet⟩
  intro policy p now memory after
  cases hc : p.check with
  | error error =>
    rw [e.runPipeline_of_refused policy p now memory hc,e.visited_of_refused policy p now memory hc]
    exact ⟨rfl,rfl,by simp⟩
  | ok =>
    have curbed := e.runStages_curbed safe given p (policy.resolve p) p.stages 0 [] now memory
    have barren : ∀ v ∈ e.visits p (policy.resolve p) p.stages 0 [] now memory,
        e.Barren p (policy.resolve p) v := by
      intro v hv
      exact curbed.barren v hv (Nat.le_trans after (e.le_start given _ _ _ _ _ _ _ hv))
    unfold runPipeline visited
    simp only [hc]
    refine ⟨curbed.handed,?_,barren⟩
    rw [e.events_runStages,entered_flatMap,List.flatMap_eq_nil_iff]
    exact fun v hv => (barren v hv).quiet

/-- A slow scanner and a quick one; the caller gives up while the slow one is at work. -/
def impatient : Engine Unit :=
  { still
      { scanners := [.doing "nmap" .port (.sleep 5 (.finish (.ports []))),
          .doing "dns" .subdomain (.finish (.subdomains []))]
        nodup := by decide
        named := by decide } with
    world := { World.still with cancelAt := some 3 } }

/-- Of the last two stages nothing is started. -/
def thorough : Pipeline where
  name := "audit"
  projectId := 1
  target := "example.com"
  stages := [{ name := "hosts", scanners := ["dns","nmap"], parallel := true },
    { name := "names", scanners := ["dns"] },
    { name := "owners", scanners := ["dns","whois","nmap"], parallel := true }]
  continueOnError := true

theorem giving_up_is_final_impatient :
    impatient.registry.VerifiesSafely ∧ impatient.world.cancelAt = some 3 ∧
    (∃ first second third, impatient.visits thorough .zero thorough.stages 0 [] 0 () = [first,second,third] ∧
      first.run.found.map (fun x => (x.scanner,x.status)) = [("nmap",.failed),("dns",.completed)] ∧
      impatient.Barren thorough .zero second ∧ impatient.Barren thorough .zero third ∧
      third.run.found.map (·.scanner) = ["nmap","dns"]) ∧
    (impatient.runPipeline .ofPipeline thorough 3 ()).verdict.results? =
      some (accumulated (impatient.visited .ofPipeline thorough 3 ())) ∧
    entered (impatient.runPipeline .ofPipeline thorough 3 ()).events = [] := by
  have safe : impatient.registry.VerifiesSafely := by
    intro s hs config text
    simp only [impatient,still,List.mem_cons,List.not_mem_nil,or_false] at hs
    obtain rfl | rfl := hs <;> simp [Scanner.doing]
  obtain ⟨_,_,_,curbed,before⟩ := impatient.giving_up_is_final safe (c := 3) rfl
  have barren := (curbed thorough .zero thorough.stages 0 [] 0 ()).barren
  obtain ⟨handed,quiet,_⟩ := before .ofPipeline thorough 3 () (Nat.le_refl 3)
  refine ⟨safe,rfl,⟨_,_,_,rfl,by decide,?_,?_,by decide⟩,handed,quiet⟩
  · exact barren _ (List.mem_of_getElem? (i := 1) rfl) (by decide)
  · exact barren _ (List.mem_of_getElem? (i := 2) rfl) (by decide)

end Engine
end Recon
