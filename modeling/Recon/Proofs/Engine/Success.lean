import Mathlib.Data.List.Nodup
import Recon.Proofs.Engine.Briefing
import Recon.Proofs.Engine.Policy

/-! When a run succeeds. A scan completes exactly if its scanner is known, can be used, agrees to the
configuration and delivers in time what its category allows. A pipeline that errors stop comes to its end
exactly if every entry of every stage completes; one that goes on after errors, exactly if every stage finds
completed what it depends on. -/
namespace Recon

variable {σ : Type}

lemma Limits.le_of_reached {l : Limits} {yields : Bool} {t d : Nat} (h : l.wait yields t = .reached)
    (hd : l.deadline = some d) : t ≤ d := by
  apply Nat.le_of_not_lt
  intro hlt
  have hs : (decide (d < t) || (yields && d == t)) = true := by simp [hlt]
  unfold wait at h
  simp only [hd,hs,if_true] at h
  cases hc : l.cancelAt with
  | none => simp [hc] at h
  | some c =>
    simp only [hc] at h
    split at h <;> cases h

/-- A job that ends well is over by its deadline. -/
theorem Job.finish_le_deadline {w : World σ} {l : Limits} {d : Nat} (hd : l.deadline = some d) (j : Job)
    {now : Nat} {memory : σ} {payload : Payload} (hn : now ≤ d)
    (h : (j.run w l now memory).ending = .finished payload) : (j.run w l now memory).finish ≤ d := by
  induction j generalizing now memory with
  | finish => exact hn
  | fail | crash => cases h
  | sleep nanos next ih =>
    rw [run] at h ⊢
    cases hw : l.wait false (now + nanos) with
    | reached =>
      simp only [hw] at h ⊢
      exact ih (Limits.le_of_reached hw hd) h
    | timedOut | cancelled => simp [hw] at h
  | launch command limit next ih =>
    rw [run] at h ⊢
    dsimp only at h ⊢
    by_cases ht : (reportOf limit now (w.start now command memory).1).2.1 = now
    · rw [if_pos ht] at h ⊢
      exact ih _ (Nat.le_trans (Nat.le_of_eq ht) hn) h
    · rw [if_neg ht] at h ⊢
      cases hw : l.wait (reportOf limit now (w.start now command memory).1).2.2
          (reportOf limit now (w.start now command memory).1).2.1 with
      | reached =>
        simp only [hw] at h ⊢
        exact ih _ (Limits.le_of_reached hw hd) h
      | timedOut | cancelled => simp [hw] at h
  | resolve hosts next ih => exact ih _ hn h
  | warn warning next ih => exact ih hn h

lemma Ending.outcome_eq_ok_iff {ending : Ending} {scanner : String} {category : Category} {timeout : Duration}
    {payload : Payload} : ending.outcome scanner category timeout = .ok payload ↔
      ending = .finished payload ∧ category.accepts payload = true := by
  cases ending with
  | finished found =>
    by_cases ha : category.accepts found = true
    · simp only [outcome,ha,if_true,Except.ok.injEq,finished.injEq]
      constructor
      · rintro rfl
        exact ⟨rfl,ha⟩
      · exact And.left
    · simp only [outcome,ha,Bool.false_eq_true,if_false,finished.injEq]
      constructor
      · intro h
        cases h
      · rintro ⟨rfl,h⟩
        exact absurd h ha
  | failed | crashed | timedOut | cancelled => simp [outcome]

/-- When a scan has to be over that starts at `start`, if it has a timeout. -/
def ScanConfig.deadline (config : ScanConfig) (start : Nat) : Option Nat :=
  if config.timeout.isZero then none else some (start + config.timeout.nanos)

namespace Scanner

variable (s : Scanner) (w : World σ) (config : ScanConfig) (now : Nat) (memory : σ)

lemma runJob_of_uncancelled (uncancelled : w.cancelAt = none) : s.runJob w config now memory =
    ((s.scan config).run w ⟨config.deadline now,none⟩ now memory,[.entered s.name config]) := by
  simp [runJob,uncancelled,ScanConfig.deadline]

lemma attempt_isCompleted_iff : (s.attempt w config now memory).verdict.isCompleted = true ↔
    ∃ payload, (s.runJob w config now memory).1.ending = .finished payload ∧
      s.category.accepts payload = true := by
  simp only [← @Ending.outcome_eq_ok_iff _ s.name _ config.timeout]
  unfold attempt
  dsimp only
  cases (s.runJob w config now memory).1.ending.outcome s.name s.category config.timeout with
  | ok payload => simp [Verdict.isCompleted]
  | error error => simp [Verdict.isCompleted]

end Scanner

namespace Registry

/-- Looking a name up gives the one scanner of that name, if it can be used. -/
theorem get_eq_ok_iff {r : Registry} {name : String} {s : Scanner} :
    r.get name = .ok s ↔ s ∈ r.scanners ∧ s.name = name ∧ s.available = true := by
  unfold get find?
  cases hf : r.scanners.find? (·.name == name) with
  | none =>
    have hn := List.find?_eq_none.mp hf
    simp only [reduceCtorEq,false_iff]
    rintro ⟨hs,rfl,_⟩
    exact hn s hs (by simp)
  | some t =>
    have ht := List.mem_of_find?_eq_some hf
    have hn : t.name = name := by simpa using List.find?_some hf
    dsimp only
    constructor
    · intro h
      split at h
      · cases h
        exact ⟨ht,hn,by assumption⟩
      · cases h
    · rintro ⟨hs,hsn,ha⟩
      obtain rfl : t = s := List.inj_on_of_nodup_map r.nodup ht hs (hn.trans hsn.symm)
      rw [if_pos ha]

/-- The scan that `config` asks for has all that it takes when it starts at `start`: there is a scanner of that
name, it can be used and agrees to the configuration, and unless it is given up it comes, within the timeout, to
a payload of its category. -/
structure Serves (r : Registry) (w : World σ) (config : ScanConfig) (start : Nat) (memory : σ) (s : Scanner)
    (payload : Payload) : Prop where
  named : config.tool = some s.name
  registered : s ∈ r.scanners
  available : s.available = true
  accepted : s.verify config = .accepted
  returned : ((s.scan config).run w ⟨config.deadline start,none⟩ start memory).ending = .finished payload
  inTime : ∀ d, config.deadline start = some d →
    ((s.scan config).run w ⟨config.deadline start,none⟩ start memory).finish ≤ d
  fits : s.category.accepts payload = true

lemma select_eq_ok_iff {r : Registry} {config : ScanConfig} {s : Scanner} : r.select config = .ok s ↔
    config.tool = some s.name ∧ s ∈ r.scanners ∧ s.available = true := by
  unfold select
  cases ht : config.tool with
  | none => simp
  | some name =>
    simp only [get_eq_ok_iff,Option.some.injEq]
    constructor
    · rintro ⟨hs,hn,ha⟩
      exact ⟨hn.symm,hs,ha⟩
    · rintro ⟨hn,hs,ha⟩
      exact ⟨hs,hn.symm,ha⟩

variable {r : Registry} {w : World σ} {config : ScanConfig} {now : Nat} {memory : σ}

/-- A scan completes exactly if it has all that it takes. -/
theorem isCompleted_iff_serves (uncancelled : w.cancelAt = none) :
    (r.scan w config now memory).verdict.isCompleted = true ↔ ∃ s payload, r.Serves w config now memory s payload := by
  constructor
  · intro h
    obtain ⟨x,hx⟩ := Verdict.isCompleted_iff.mp h
    obtain ⟨s,hs,hv,hr⟩ := attempt_of_result (Attempt.result?_of_completed hx)
    rw [hr] at h
    obtain ⟨payload,he,ha⟩ := (s.attempt_isCompleted_iff w config now memory).mp h
    rw [s.runJob_of_uncancelled w config now memory uncancelled] at he
    obtain ⟨named,registered,available⟩ := select_eq_ok_iff.mp hs
    refine ⟨s,payload,named,registered,available,hv,he,?_,ha⟩
    intro d hd
    refine Job.finish_le_deadline hd (s.scan config) ?_ he
    unfold ScanConfig.deadline at hd
    split at hd
    · cases hd
    · rw [← Option.some.inj hd]
      omega
  · rintro ⟨s,payload,h⟩
    have hs := select_eq_ok_iff.mpr ⟨h.named,h.registered,h.available⟩
    rw [scan_of_accepted hs h.accepted,s.attempt_isCompleted_iff,
      s.runJob_of_uncancelled w config now memory uncancelled]
    exact ⟨payload,h.returned,h.fits⟩

end Registry

/-- What a stage leaves whose scans have all completed: one result for each entry, in a serial stage in their
order. -/
structure Stage.Yields (stage : Stage) (found : List ScanResult) : Prop where
  scanners : (found.map (·.scanner)).Perm stage.scanners
  inOrder : stage.parallel = false → found.map (·.scanner) = stage.scanners
  completed : ∀ x ∈ found, x.status = .completed

namespace Engine

/-- A serial stage is without error exactly if all scans that it asks for complete. -/
theorem runSerial_unfailing_iff (e : Engine σ) (config : String → List ScanResult → ScanConfig)
    (previous done : List ScanResult) (names : List String) (now : Nat) (memory : σ) :
    (∃ found, (e.runSerial config previous done names now memory).verdict = .ended found none) ↔
      ∀ a ∈ e.serialAttempts config previous done names now memory, a.verdict.isCompleted = true := by
  induction names generalizing done now memory with
  | nil => simp [runSerial,serialAttempts]
  | cons name names ih =>
    unfold runSerial serialAttempts
    cases hv : (e.registry.scan e.world (config name (previous ++ done)) now memory).verdict with
    | completed x => simpa [hv,Verdict.isCompleted] using ih ..
    | failed | crashed => simp [hv,Verdict.isCompleted]

/-- Scans that start together and all complete leave their results in the order of the entries. -/
theorem scanners_startAll (e : Engine σ) {config : String → ScanConfig}
    (named : ∀ name, (config name).tool = some name) (names : List String) (now : Nat) (memory : σ)
    (h : ∀ a ∈ (e.startAll config now names memory).1, a.verdict.isCompleted = true) :
    ((e.startAll config now names memory).1.filterMap Attempt.result?).map (·.scanner) = names := by
  induction names generalizing memory with
  | nil => rfl
  | cons name names ih =>
    simp only [startAll,List.forall_mem_cons] at h ⊢
    obtain ⟨hc,hr⟩ := h
    cases hv : (e.registry.scan e.world (config name) now memory).verdict with
    | completed x =>
      have hx := Attempt.result?_of_completed hv
      have ht := (Registry.tool_of_result hx).1
      rw [named] at ht
      rw [List.filterMap_cons_some hx,List.map_cons,ih _ hr,← Option.some.inj ht]
    | failed | crashed => simp [hv,Verdict.isCompleted] at hc

/-- What entry `i` of a stage goes by. -/
def configAt (e : Engine σ) (p : Pipeline) (timeout : Duration) (v : Visit σ) (i : Nat) (name : String) :
    ScanConfig :=
  p.configFor timeout v.stage name (v.previous ++ e.siblings p timeout v i)

/-- Entry `i` of a stage is asked for, and its scan has all that it takes. -/
def ServesAt (e : Engine σ) (p : Pipeline) (timeout : Duration) (v : Visit σ) (i : Nat) (name : String) : Prop :=
  ∃ start memory s payload,
    (e.attempts p timeout v)[i]? = some (e.registry.scan e.world (e.configAt p timeout v i name) start memory) ∧
    e.registry.Serves e.world (e.configAt p timeout v i name) start memory s payload

section Visits

variable {e : Engine σ} {p : Pipeline} {timeout : Duration} {v : Visit σ} {index : Nat}

lemma servesAt_iff (uncancelled : e.world.cancelAt = none) {i : Nat} {name : String}
    (hn : v.stage.scanners[i]? = some name) : e.ServesAt p timeout v i name ↔
      ∃ a, (e.attempts p timeout v)[i]? = some a ∧ a.verdict.isCompleted = true := by
  constructor
  · rintro ⟨start,memory,s,payload,ha,hs⟩
    exact ⟨_,ha,(Registry.isCompleted_iff_serves uncancelled).mpr ⟨s,payload,hs⟩⟩
  · rintro ⟨a,ha,hc⟩
    obtain ⟨other,start,memory,ho,rfl,_⟩ := attempts_asked ha
    rw [hn] at ho
    cases ho
    obtain ⟨s,payload,hs⟩ := (Registry.isCompleted_iff_serves uncancelled).mp hc
    exact ⟨start,memory,s,payload,ha,hs⟩

lemma unfailing_iff (ran : v.run = e.runStage p timeout index v.stage v.previous v.start v.memory) :
    (∃ found, v.run.verdict = .ended found none) ↔
      ∀ a ∈ e.attempts p timeout v, a.verdict.isCompleted = true := by
  rw [ran]
  cases hm : v.stage.parallel with
  | true =>
    rw [e.runStage_of_parallel _ _ _ _ _ _ _ hm,attempts_of_parallel hm,runParallel_verdict,
      ← e.findSome?_error?_arrived_eq_none_iff index v.stage.name]
    simp
  | false =>
    rw [e.runStage_of_serial _ _ _ _ _ _ _ hm,attempts_of_serial hm]
    exact e.runSerial_unfailing_iff ..

/-- A stage without error has asked for all of its entries. -/
theorem length_attempts (ran : v.run = e.runStage p timeout index v.stage v.previous v.start v.memory)
    {found : List ScanResult} (ended : v.run.verdict = .ended found none) :
    (e.attempts p timeout v).length = v.stage.scanners.length := by
  cases hm : v.stage.parallel with
  | true =>
    rw [attempts_of_parallel hm]
    exact e.startAll_length ..
  | false =>
    rw [ran,e.runStage_of_serial _ _ _ _ _ _ _ hm] at ended
    rw [attempts_of_serial hm]
    exact (serial_account ended).ended.2

lemma servesAt_of_unfailing (uncancelled : e.world.cancelAt = none)
    (ran : v.run = e.runStage p timeout index v.stage v.previous v.start v.memory)
    {found : List ScanResult} (ended : v.run.verdict = .ended found none) {i : Nat} {name : String}
    (hn : v.stage.scanners[i]? = some name) : e.ServesAt p timeout v i name := by
  have hi : i < (e.attempts p timeout v).length := by
    rw [length_attempts ran ended]
    exact (List.getElem?_eq_some_iff.mp hn).1
  have completed := (unfailing_iff ran).mp ⟨found,ended⟩
  exact (servesAt_iff uncancelled hn).mpr ⟨_,List.getElem?_eq_getElem hi,completed _ (List.getElem_mem hi)⟩

/-- A stage is without error if the entries that it asks for are served. -/
theorem unfailing_of_servesAt (uncancelled : e.world.cancelAt = none)
    (ran : v.run = e.runStage p timeout index v.stage v.previous v.start v.memory)
    (served : ∀ i name, i < (e.attempts p timeout v).length → v.stage.scanners[i]? = some name →
      e.ServesAt p timeout v i name) : ∃ found, v.run.verdict = .ended found none := by
  apply (unfailing_iff ran).mpr
  intro a ha
  obtain ⟨i,hi⟩ := List.getElem?_of_mem ha
  obtain ⟨name,_,_,hn,_,_⟩ := attempts_asked hi
  obtain ⟨b,hb,hc⟩ := (servesAt_iff uncancelled hn).mp (served i name (List.getElem?_eq_some_iff.mp hi).1 hn)
  rw [hi] at hb
  cases hb
  exact hc

lemma yields_of_unfailing (safe : e.registry.VerifiesSafely)
    (ran : v.run = e.runStage p timeout index v.stage v.previous v.start v.memory)
    {found : List ScanResult} (ended : v.run.verdict = .ended found none) : v.stage.Yields v.run.found := by
  have completed := (unfailing_iff ran).mp ⟨found,ended⟩
  obtain ⟨error,he,serial,parallel⟩ := Accounted.of_safe safe ran
  rw [ended] at he
  obtain ⟨_,rfl⟩ := StageVerdict.ended.inj he
  have tool (name : String) (parents : List ScanResult) := p.tool_configFor timeout v.stage name parents
  cases hm : v.stage.parallel with
  | true =>
    have account := parallel hm
    rw [attempts_of_parallel hm] at completed
    refine ⟨?_,fun h => by simp [hm] at h,fun x hx => by simpa [ScanResult.isCompleted] using account.isCompleted hx⟩
    have hp := (account.arrival.filterMap Attempt.result?).map (·.scanner)
    rwa [← account.results,e.scanners_startAll (fun name => tool name _) _ _ _ completed] at hp
  | false =>
    have account := serial hm
    have hs := account.scanners_eq tool
    exact ⟨.of_eq hs,fun _ => hs,fun x hx => by simpa [ScanResult.isCompleted] using account.isCompleted hx⟩

end Visits

section Pipeline

variable (e : Engine σ) (policy : StageTimeout) (p : Pipeline) (now : Nat) (memory : σ)

/-- Every entry of every stage is asked for and served. -/
def ServesAll : Prop :=
  ∀ (k : Nat) (stage : Stage), p.stages[k]? = some stage →
    ∃ v, (e.visited policy p now memory)[k]? = some v ∧ v.stage = stage ∧
      ∀ i name, stage.scanners[i]? = some name → e.ServesAt p (policy.resolve p) v i name

/-- The entries that the run came to ask for are served. -/
def ServesAsked : Prop :=
  ∀ v ∈ e.visited policy p now memory, ∀ i name, i < (e.attempts p (policy.resolve p) v).length →
    v.stage.scanners[i]? = some name → e.ServesAt p (policy.resolve p) v i name

variable {e policy p now memory}

lemma ServesAll.servesAsked (h : e.ServesAll policy p now memory) : e.ServesAsked policy p now memory := by
  intro v hv i name _ hn
  obtain ⟨k,hk⟩ := List.getElem?_of_mem hv
  obtain ⟨u,hu,_,served⟩ := h k v.stage (e.visited_at policy p now memory hk).1
  rw [hk] at hu
  cases hu
  exact served i name hn

/-- A run that comes to its end has started every stage, and each left the turn to the next. -/
theorem of_finished {results : List ScanResult}
    (h : (e.runPipeline policy p now memory).verdict = .finished results) :
    p.check = .ok () ∧ results = accumulated (e.visited policy p now memory) ∧
      (e.visited policy p now memory).map (·.stage) = p.stages ∧
      ∀ v ∈ e.visited policy p now memory, p.goesOn v.run = true := by
  cases hc : p.check with
  | error error =>
    rw [e.runPipeline_of_refused policy p now memory hc] at h
    cases h
  | ok =>
    have hr : results = accumulated (e.visited policy p now memory) :=
      e.results_of_run policy p now memory (by rw [h]; rfl)
    obtain ⟨_,hl,hg⟩ | ⟨_,_,_,hv,_⟩ | ⟨_,_,_,_,_,⟨_,_,_,_,hv⟩ | ⟨_,_,hv⟩⟩ :=
      (e.visited_course policy p now memory hc).ending
    · refine ⟨rfl,hr,List.ext_getElem (by simpa using hl) ?_,hg⟩
      intro k hk hs
      rw [List.length_map] at hk
      have hv := (e.visited_at policy p now memory (List.getElem?_eq_getElem hk)).1
      rw [List.getElem?_eq_getElem hs] at hv
      simpa using (Option.some.inj hv).symm
    all_goals rw [h] at hv; cases hv

lemma unfailing_of_goesOn {v : Visit σ} (safe : e.registry.VerifiesSafely) (stops : p.continueOnError = false)
    (hv : v ∈ e.visited policy p now memory) (goes : p.goesOn v.run = true) :
    ∃ found, v.run.verdict = .ended found none := by
  obtain ⟨_,ran⟩ := ran_of_mem_visited hv
  obtain ⟨error,he,_⟩ := Accounted.of_safe safe ran
  obtain rfl : error = none := by simpa [Pipeline.goesOn,he,stops] using goes
  exact ⟨_,he⟩

/-- A pipeline that errors stop, and that is let pass, comes to its end if the entries asked for are served. -/
theorem finished_of_servesAsked (uncancelled : e.world.cancelAt = none) (safe : e.registry.VerifiesSafely)
    (stops : p.continueOnError = false) (accepted : p.check = .ok ()) (served : e.ServesAsked policy p now memory) :
    ∃ results, (e.runPipeline policy p now memory).verdict = .finished results := by
  cases hv : (e.runPipeline policy p now memory).verdict with
  | finished results => exact ⟨results,rfl⟩
  | crashed text =>
    have hr := e.results_of_safe policy p now memory safe accepted
    rw [hv] at hr
    cases hr
  | stopped error results =>
    obtain ⟨_,_,cause,rfl⟩ := stageFailed_of_stopped stops accepted hv
    obtain ⟨_,v,hm,_,_,failed⟩ := e.errs_of_stageFailed p policy now memory hv
    obtain ⟨_,ran⟩ := ran_of_mem_visited hm
    obtain ⟨_,ended⟩ := unfailing_of_servesAt uncancelled ran (served v hm)
    rw [failed] at ended
    cases ended

lemma servesAll_of_finished (uncancelled : e.world.cancelAt = none) (safe : e.registry.VerifiesSafely)
    (stops : p.continueOnError = false) {results : List ScanResult}
    (h : (e.runPipeline policy p now memory).verdict = .finished results) : e.ServesAll policy p now memory := by
  obtain ⟨_,_,hs,goes⟩ := of_finished h
  intro k stage hk
  rw [← hs,List.getElem?_map,Option.map_eq_some_iff] at hk
  obtain ⟨v,hv,rfl⟩ := hk
  have hm := List.mem_of_getElem? hv
  obtain ⟨_,ended⟩ := unfailing_of_goesOn safe stops hm (goes v hm)
  exact ⟨v,hv,rfl,fun i name hn =>
    servesAt_of_unfailing uncancelled (e.visited_at policy p now memory hv).2.1 ended hn⟩

/-- The results of a run that errors would have stopped, stage by stage. -/
theorem yields_of_finished (safe : e.registry.VerifiesSafely) (stops : p.continueOnError = false)
    {results : List ScanResult} (h : (e.runPipeline policy p now memory).verdict = .finished results) :
    ∃ groups, results = groups.flatten ∧ List.Forall₂ Stage.Yields p.stages groups := by
  obtain ⟨_,hr,hs,goes⟩ := of_finished h
  rw [accumulated,List.flatMap_def] at hr
  refine ⟨_,hr,?_⟩
  rw [← hs,List.forall₂_map_left_iff,List.forall₂_map_right_iff,List.forall₂_same]
  intro v hv
  obtain ⟨_,ended⟩ := unfailing_of_goesOn safe stops hv (goes v hv)
  obtain ⟨_,ran⟩ := ran_of_mem_visited hv
  exact yields_of_unfailing safe ran ended

/-- What has completed has completed in one of the stages. -/
theorem completed_accumulated_iff {visits : List (Visit σ)} {name : String} :
    Completed (accumulated visits) name ↔ ∃ v ∈ visits, Completed v.run.found name := by
  constructor
  · rintro ⟨x,hx,hc⟩
    obtain ⟨v,hv,hf⟩ := List.mem_flatMap.mp hx
    exact ⟨v,hv,x,hf,hc⟩
  · rintro ⟨v,hv,x,hf,hc⟩
    exact ⟨x,List.mem_flatMap.mpr ⟨v,hv,hf⟩,hc⟩

/-- Every stage of a run that comes to its end has found completed what it depends on. -/
theorem met_of_finished {results : List ScanResult}
    (h : (e.runPipeline policy p now memory).verdict = .finished results) {k : Nat} {stage : Stage}
    (hs : p.stages[k]? = some stage) {name : String} (hn : name ∈ stage.dependsOn) :
    ∃ j < k, ∃ v, (e.visited policy p now memory)[j]? = some v ∧ Completed v.run.found name := by
  obtain ⟨_,_,stages,_⟩ := of_finished h
  rw [← stages,List.getElem?_map,Option.map_eq_some_iff] at hs
  obtain ⟨v,hv,rfl⟩ := hs
  obtain ⟨_,_,hp,met⟩ := e.visited_at policy p now memory hv
  have hc := met name hn
  rw [hp,completed_accumulated_iff] at hc
  obtain ⟨u,hu,hc⟩ := hc
  obtain ⟨j,hj⟩ := List.getElem?_of_mem hu
  rw [List.getElem?_take] at hj
  split at hj
  · exact ⟨j,by assumption,u,hj,hc⟩
  · cases hj

/-- A pipeline that goes on after errors, and that is let pass, comes to its end if no stage lacks what it
depends on. -/
theorem finished_of_met (safe : e.registry.VerifiesSafely) (continues : p.continueOnError = true)
    (accepted : p.check = .ok ())
    (met : ∀ (k : Nat) (stage : Stage), p.stages[k]? = some stage → ∀ name ∈ stage.dependsOn,
      ∃ j < k, ∃ v, (e.visited policy p now memory)[j]? = some v ∧ Completed v.run.found name) :
    ∃ results, (e.runPipeline policy p now memory).verdict = .finished results := by
  obtain ⟨hv,_⟩ | ⟨stage,hs,hm,_⟩ | ⟨_,v,_,_,_,⟨_,_,_,stops,_⟩ | ⟨text,_,hv⟩⟩ :=
    (e.visited_course policy p now memory accepted).ending
  · exact ⟨_,hv⟩
  · refine absurd (missingDependencies_eq_nil_iff.mpr ?_) hm
    intro name hn
    obtain ⟨j,_,v,hv,hc⟩ := met _ stage hs name hn
    exact completed_accumulated_iff.mpr ⟨v,List.mem_of_getElem? hv,hc⟩
  · rw [continues] at stops
    cases stops
  · have hr := e.results_of_safe policy p now memory safe accepted
    rw [hv] at hr
    cases hr

variable (e policy p now memory)

/-- When a pipeline comes to its end that nobody gives up. If errors stop it: exactly when it is let pass and
every entry of every stage is served, for which it is enough that those are served that the run comes to ask
for; the results then bear the names of all entries, stage by stage, and all have completed. If it goes on
after errors: exactly when it is let pass and all that a stage depends on has completed in an earlier one. -/
theorem runPipeline_finishes_iff (uncancelled : e.world.cancelAt = none) (safe : e.registry.VerifiesSafely) :
    (p.continueOnError = false →
      ((∃ results, (e.runPipeline policy p now memory).verdict = .finished results) ↔
        p.check = .ok () ∧ e.ServesAll policy p now memory) ∧
      ((∃ results, (e.runPipeline policy p now memory).verdict = .finished results) ↔
        p.check = .ok () ∧ e.ServesAsked policy p now memory) ∧
      ∀ results, (e.runPipeline policy p now memory).verdict = .finished results →
        ∃ groups, results = groups.flatten ∧ List.Forall₂ Stage.Yields p.stages groups) ∧
    (p.continueOnError = true →
      ((∃ results, (e.runPipeline policy p now memory).verdict = .finished results) ↔
        p.check = .ok () ∧ ∀ (k : Nat) (stage : Stage), p.stages[k]? = some stage → ∀ name ∈ stage.dependsOn,
          ∃ j < k, ∃ v, (e.visited policy p now memory)[j]? = some v ∧ Completed v.run.found name)) := by
  refine ⟨fun stops => ⟨?_,?_,fun results => yields_of_finished safe stops⟩,fun continues => ?_⟩
  · constructor
    · rintro ⟨results,h⟩
      exact ⟨(of_finished h).1,servesAll_of_finished uncancelled safe stops h⟩
    · rintro ⟨accepted,served⟩
      exact finished_of_servesAsked uncancelled safe stops accepted served.servesAsked
  · constructor
    · rintro ⟨results,h⟩
      exact ⟨(of_finished h).1,(servesAll_of_finished uncancelled safe stops h).servesAsked⟩
    · rintro ⟨accepted,served⟩
      exact finished_of_servesAsked uncancelled safe stops accepted served
  · constructor
    · rintro ⟨results,h⟩
      exact ⟨(of_finished h).1,fun k stage => met_of_finished h⟩
    · rintro ⟨accepted,met⟩
      exact finished_of_met safe continues accepted met

/-- A serial stage and a parallel one after it, in which every scan completes. -/
def flawless : Pipeline where
  name := "audit"
  projectId := 1
  target := "example.com"
  stages := [{ name := "names", scanners := ["dns","dns"] },
    { name := "hosts", scanners := ["dns"], parallel := true, dependsOn := ["dns"] }]

/-- A stage fails in part, and the next depends on the other part. -/
def lenient : Pipeline where
  name := "audit"
  projectId := 1
  target := "example.com"
  stages := [{ name := "names", scanners := ["whois","dns"], parallel := true },
    { name := "hosts", scanners := ["dns"], dependsOn := ["dns"] }]
  continueOnError := true

theorem runPipeline_flawless :
    halfFailing.world.cancelAt = none ∧ halfFailing.registry.VerifiesSafely ∧
    (flawless.continueOnError = false ∧ flawless.check = .ok () ∧
      halfFailing.ServesAsked .ofPipeline flawless 0 () ∧ halfFailing.ServesAll .ofPipeline flawless 0 () ∧
      ∃ results groups, (halfFailing.runPipeline .ofPipeline flawless 0 ()).verdict = .finished results ∧
        results.map (·.scanner) = ["dns","dns","dns"] ∧
        results = groups.flatten ∧ List.Forall₂ Stage.Yields flawless.stages groups) ∧
    (failingLast.continueOnError = false ∧ failingLast.check = .ok () ∧
      ¬ halfFailing.ServesAll .ofPipeline failingLast 0 ()) ∧
    lenient.continueOnError = true ∧ lenient.check = .ok () ∧
      (∃ v, (halfFailing.visited .ofPipeline lenient 0 ())[0]? = some v ∧ v.Errs ∧ Completed v.run.found "dns") ∧
      ∃ results, (halfFailing.runPipeline .ofPipeline lenient 0 ()).verdict = .finished results := by
  have uncancelled : halfFailing.world.cancelAt = none := rfl
  have safe := verifiesSafely_halfFailing
  obtain ⟨stopping,_⟩ := halfFailing.runPipeline_finishes_iff .ofPipeline flawless 0 () uncancelled safe
  obtain ⟨failing,_⟩ := halfFailing.runPipeline_finishes_iff .ofPipeline failingLast 0 () uncancelled safe
  obtain ⟨_,continuing⟩ := halfFailing.runPipeline_finishes_iff .ofPipeline lenient 0 () uncancelled safe
  refine ⟨uncancelled,safe,⟨rfl,rfl,?_⟩,⟨rfl,rfl,?_⟩,rfl,rfl,?_⟩
  · obtain ⟨all,asked,named⟩ := stopping rfl
    obtain ⟨groups,hr,hg⟩ := named _ rfl
    exact ⟨(asked.mp ⟨_,rfl⟩).2,(all.mp ⟨_,rfl⟩).2,_,groups,rfl,rfl,hr,hg⟩
  · intro served
    obtain ⟨results,h⟩ := (failing rfl).1.mpr ⟨rfl,served⟩
    cases h
  · have hc : ∃ v, (halfFailing.visited .ofPipeline lenient 0 ())[0]? = some v ∧ v.Errs ∧
        Completed v.run.found "dns" := ⟨_,rfl,⟨_,_,rfl⟩,by decide⟩
    refine ⟨hc,(continuing rfl).mpr ⟨rfl,?_⟩⟩
    obtain ⟨v,hv,_,completed⟩ := hc
    intro k stage hs name hn
    match k with
    | 0 =>
      cases hs
      cases hn
    | 1 =>
      cases hs
      obtain rfl := List.mem_singleton.mp hn
      exact ⟨0,Nat.zero_lt_one,v,hv,completed⟩
    | k + 2 => cases hs

end Pipeline

end Engine
end Recon
