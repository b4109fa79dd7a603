import Mathlib.Data.List.Basic
import Recon.Proofs.Engine.Course

/-! What scanners are told in a run. A scanner hears the project and the target of the pipeline, the options
of its own stage, its own name as the tool, the timeout of the policy, and the results found before its turn:
those of the earlier stages and, one after another, those of its own. -/
namespace Recon

variable {σ : Type}

/-- What entry `scanner` of a stage goes by, after the results `parents`. -/
structure Pipeline.Briefs (p : Pipeline) (timeout : Duration) (stage : Stage) (scanner : String)
    (parents : List ScanResult) (config : ScanConfig) : Prop where
  projectId : config.projectId = p.projectId
  target : config.target = p.target
  tool : config.tool = some scanner
  option : ∀ key, key ≠ toolOption → config.options.get? key = stage.options.get? key
  timeout : config.timeout = timeout
  parents : config.parents = parents

lemma Pipeline.briefs_configFor (p : Pipeline) (timeout : Duration) (stage : Stage) (scanner : String)
    (parents : List ScanResult) :
    p.Briefs timeout stage scanner parents (p.configFor timeout stage scanner parents) where
  projectId := rfl
  target := rfl
  tool := p.tool_configFor timeout stage scanner parents
  option key hk := by
    change (stage.options.insert toolOption scanner).get? key = _
    rw [Dict.get?_insert,if_neg (Ne.symm hk)]
  timeout := rfl
  parents := rfl

/-- The scanner was given the configuration, to verify it or to scan by it. -/
def Attempt.Tells (a : Attempt σ) (scanner : String) (config : ScanConfig) : Prop :=
  .verified scanner config ∈ a.events ∨ .entered scanner config ∈ a.events

/-- A scan speaks to the scanner that it is meant for, and of nothing but its configuration. -/
theorem Registry.tells_scan {r : Registry} {w : World σ} {asked config : ScanConfig} {now : Nat} {memory : σ}
    {scanner : String} (h : (r.scan w asked now memory).Tells scanner config) :
    config = asked ∧ asked.tool = some scanner := by
  unfold Attempt.Tells at h
  obtain ⟨error,_,hr⟩ | ⟨s,hs,hr⟩ := r.scan_cases w asked now memory
  · simp [hr] at h
  · have hn := (mem_of_select hs).2
    suffices h' : scanner = s.name ∧ config = asked from ⟨h'.2,by rw [hn,h'.1]⟩
    obtain ⟨text,_,hr⟩ | ⟨error,_,hr⟩ | ⟨_,hr⟩ := hr
    · simpa [hr] using h
    · simpa [hr] using h
    · rw [hr,s.attempt_events] at h
      obtain he | he := s.runJob_events w asked now memory <;> simpa [he] using h

namespace Engine

lemma events_runSerial (e : Engine σ) (config : String → List ScanResult → ScanConfig)
    (previous done : List ScanResult) (names : List String) (now : Nat) (memory : σ) :
    (e.runSerial config previous done names now memory).events =
      (e.serialAttempts config previous done names now memory).flatMap (·.events) := by
  induction names generalizing done now memory with
  | nil => rfl
  | cons name names ih =>
    unfold runSerial serialAttempts
    cases hv : (e.registry.scan e.world (config name (previous ++ done)) now memory).verdict with
    | completed x => simp [hv,ih]
    | failed | crashed => simp [hv]

/-- A serial stage comes to an entry only after all entries before it have completed, and asks for it with
their results. -/
theorem serialAttempts_asked (e : Engine σ) (config : String → List ScanResult → ScanConfig)
    (previous done : List ScanResult) (names : List String) (now : Nat) (memory : σ) {i : Nat} {a : Attempt σ}
    (h : (e.serialAttempts config previous done names now memory)[i]? = some a) :
    ∃ name start remembered, names[i]? = some name ∧ a = e.registry.scan e.world (config name
        (previous ++ done ++ ((e.serialAttempts config previous done names now memory).take i).filterMap
          Attempt.result?)) start remembered ∧
      (((e.serialAttempts config previous done names now memory).take i).filterMap
        Attempt.result?).length = i := by
  induction names generalizing done now memory i with
  | nil => simp [serialAttempts] at h
  | cons name names ih =>
    unfold serialAttempts at h ⊢
    cases hv : (e.registry.scan e.world (config name (previous ++ done)) now memory).verdict with
    | completed x =>
      simp only [hv] at h ⊢
      cases i with
      | zero => exact ⟨name,now,memory,rfl,by simpa using h.symm,rfl⟩
      | succ i =>
        obtain ⟨next,start,remembered,hn,ha,hl⟩ := ih _ _ _ h
        refine ⟨next,start,remembered,hn,?_,?_⟩
        · simpa [Attempt.result?_of_completed hv] using ha
        · simpa [Attempt.result?_of_completed hv] using hl
    | failed | crashed =>
      simp only [hv] at h ⊢
      cases i with
      | zero => exact ⟨name,now,memory,rfl,by simpa using h.symm,rfl⟩
      | succ i => simp at h

lemma filterMap_result?_of_completed {attempts : List (Attempt σ)} {found : List ScanResult}
    (h : attempts.map (·.verdict) = found.map .completed) : attempts.filterMap Attempt.result? = found := by
  induction attempts generalizing found with
  | nil => simpa using h
  | cons a attempts ih =>
    cases found with
    | nil => simp at h
    | cons x found =>
      simp only [List.map_cons,List.cons.injEq] at h
      rw [List.filterMap_cons,Attempt.result?_of_completed h.1,ih h.2]

/-- What a serial stage has found when it comes to an attempt is the front of what it finds in the end. -/
theorem SerialAccount.results_take {e : Engine σ} {config : String → List ScanResult → ScanConfig}
    {before : List ScanResult} {names : List String} {attempts : List (Attempt σ)} {events : List Event}
    {found : List ScanResult} {error : Option ScanError}
    (h : e.SerialAccount config before names attempts events found error) {i : Nat} (hi : i < attempts.length) :
    (attempts.take i).filterMap Attempt.result? = found.take i := by
  obtain ⟨last,hl,hv⟩ : ∃ last : List Verdict, last.length ≤ 1 ∧
      attempts.map (·.verdict) = found.map .completed ++ last := by
    have he := h.ended
    cases error with
    | none => exact ⟨[],by simp,by simpa using he.1⟩
    | some error =>
      obtain ⟨result,hr⟩ := he
      exact ⟨[.failed error result],by simp,hr⟩
  have hn : i ≤ (found.map Verdict.completed).length := by
    have hs := congrArg List.length hv
    simp only [List.length_map,List.length_append] at hs ⊢
    omega
  apply filterMap_result?_of_completed
  rw [List.map_take,hv,List.take_append_of_le_length hn,List.map_take]

/-- The scans that a stage asked for, in the order of its entries. -/
def attempts (e : Engine σ) (p : Pipeline) (timeout : Duration) (v : Visit σ) : List (Attempt σ) :=
  if v.stage.parallel then
    (e.startAll (fun name => p.configFor timeout v.stage name v.previous) v.start v.stage.scanners v.memory).1
  else e.serialAttempts (p.configFor timeout v.stage) v.previous [] v.stage.scanners v.start v.memory

/-- The results of its own stage that entry `i` is told of. -/
def siblings (e : Engine σ) (p : Pipeline) (timeout : Duration) (v : Visit σ) (i : Nat) : List ScanResult :=
  if v.stage.parallel then [] else ((e.attempts p timeout v).take i).filterMap Attempt.result?

section Visits

variable {e : Engine σ} {p : Pipeline} {timeout : Duration} {v : Visit σ}

lemma attempts_of_parallel (h : v.stage.parallel = true) : e.attempts p timeout v =
    (e.startAll (fun name => p.configFor timeout v.stage name v.previous) v.start v.stage.scanners
      v.memory).1 := by
  simp only [attempts,h,if_true]

lemma attempts_of_serial (h : v.stage.parallel = false) : e.attempts p timeout v =
    e.serialAttempts (p.configFor timeout v.stage) v.previous [] v.stage.scanners v.start v.memory := by
  simp only [attempts,h,Bool.false_eq_true,if_false]

lemma siblings_of_parallel (h : v.stage.parallel = true) (i : Nat) : e.siblings p timeout v i = [] := by
  simp only [siblings,h,if_true]

lemma siblings_of_serial (h : v.stage.parallel = false) (i : Nat) :
    e.siblings p timeout v i = ((e.attempts p timeout v).take i).filterMap Attempt.result? := by
  simp only [siblings,h,Bool.false_eq_true,if_false]

/-- A stage shows what its scans show. -/
theorem events_of_visit {index : Nat}
    (ran : v.run = e.runStage p timeout index v.stage v.previous v.start v.memory) :
    v.run.events = (e.attempts p timeout v).flatMap (·.events) := by
  rw [ran]
  cases hm : v.stage.parallel with
  | true =>
    rw [e.runStage_of_parallel _ _ _ _ _ _ _ hm,attempts_of_parallel hm]
    rfl
  | false =>
    rw [e.runStage_of_serial _ _ _ _ _ _ _ hm,attempts_of_serial hm]
    exact e.events_runSerial ..

/-- Every entry is asked for with the results of the stages before and those that it is told of. -/
theorem attempts_asked {i : Nat} {a : Attempt σ} (h : (e.attempts p timeout v)[i]? = some a) :
    ∃ name start remembered, v.stage.scanners[i]? = some name ∧
      a = e.registry.scan e.world (p.configFor timeout v.stage name
        (v.previous ++ e.siblings p timeout v i)) start remembered ∧
      (v.stage.parallel = false → (e.siblings p timeout v i).length = i) := by
  cases hm : v.stage.parallel with
  | true =>
    rw [attempts_of_parallel hm] at h
    obtain ⟨name,start,hn,ha⟩ := e.startAll_asked _ _ _ _ h
    exact ⟨name,v.start,start,hn,by simpa [siblings_of_parallel hm] using ha,by simp⟩
  | false =>
    rw [siblings_of_serial hm,attempts_of_serial hm] at *
    obtain ⟨name,start,remembered,hn,ha,hl⟩ := e.serialAttempts_asked _ _ _ _ _ _ h
    exact ⟨name,start,remembered,hn,by simpa using ha,fun _ => hl⟩

/-- What an entry is told of its own stage stands in front of what the stage finds. -/
theorem siblings_prefix_found {index i : Nat} {a : Attempt σ} {error : Option ScanError}
    (ran : v.run = e.runStage p timeout index v.stage v.previous v.start v.memory)
    (ended : v.run.verdict = .ended v.run.found error) (h : (e.attempts p timeout v)[i]? = some a) :
    e.siblings p timeout v i <+: v.run.found := by
  cases hm : v.stage.parallel with
  | true =>
    rw [siblings_of_parallel hm]
    exact List.nil_prefix
  | false =>
    rw [e.runStage_of_serial _ _ _ _ _ _ _ hm] at ran
    rw [ran] at ended
    have account := serial_account ended
    rw [siblings_of_serial hm]
    rw [attempts_of_serial hm] at h ⊢
    rw [account.results_take (List.getElem?_eq_some_iff.mp h).1,← ran]
    exact List.take_prefix ..

end Visits

/-- A run that hands out results has seen each of its stages end. -/
theorem Course.ended_of_results {e : Engine σ} {p : Pipeline} {timeout : Duration} {stages : List Stage}
    {index : Nat} {results : List ScanResult} {now : Nat} {memory : σ} {visits : List (Visit σ)}
    {verdict : PipelineVerdict} (h : e.Course p timeout stages index results now memory visits verdict)
    {handed : List ScanResult} (hr : verdict.results? = some handed) {v : Visit σ} (hv : v ∈ visits) :
    ∃ error, v.run.verdict = .ended v.run.found error := by
  cases hd : v.run.verdict with
  | ended found error => exact ⟨error,by rw [StageRun.found_of_ended hd]⟩
  | crashed text =>
    have stops : p.goesOn v.run = false := by simp only [Pipeline.goesOn,hd]
    obtain ⟨_,_,hg⟩ | ⟨_,_,_,_,hg⟩ | ⟨before,u,rfl,hg,_,hu⟩ := h.ending
    · simp [hg v hv] at stops
    · simp [hg v hv] at stops
    · obtain hv | hv := List.mem_append.mp hv
      · simp [hg v hv] at stops
      · obtain rfl := List.mem_singleton.mp hv
        obtain ⟨found,error,he,_⟩ | ⟨text,_,rfl⟩ := hu
        · rw [hd] at he
          cases he
        · cases hr

section Pipeline

variable (e : Engine σ) (policy : StageTimeout) (p : Pipeline) (now : Nat) (memory : σ)

/-- What a scanner hears in a run, entry by entry of the stages: the project and the target of the pipeline,
its own name, the other options of its stage, the timeout of the policy, and as parents what the stages before
have found, in a serial stage followed by one result for each entry before it. The parents stand in front of
whatever the run hands out, also when it is stopped. -/
theorem runPipeline_briefs :
    (e.runPipeline policy p now memory).events = (e.visited policy p now memory).flatMap (fun v =>
      (e.attempts p (policy.resolve p) v).flatMap (·.events)) ∧
    ∀ k v, (e.visited policy p now memory)[k]? = some v → p.stages[k]? = some v.stage ∧
      ∀ i a, (e.attempts p (policy.resolve p) v)[i]? = some a →
        (v.stage.parallel = true → e.siblings p (policy.resolve p) v i = []) ∧
        (v.stage.parallel = false → (e.siblings p (policy.resolve p) v i).length = i) ∧
        (∀ scanner config, a.Tells scanner config → v.stage.scanners[i]? = some scanner ∧
          p.Briefs (policy.resolve p) v.stage scanner
            (accumulated ((e.visited policy p now memory).take k) ++ e.siblings p (policy.resolve p) v i)
            config) ∧
        ∀ results, (e.runPipeline policy p now memory).verdict.results? = some results →
          accumulated ((e.visited policy p now memory).take k) ++ e.siblings p (policy.resolve p) v i
            <+: results := by
  constructor
  · rw [e.events_runPipeline policy p now memory]
    apply List.flatMap_congr
    intro v hv
    obtain ⟨k,hk⟩ := List.getElem?_of_mem hv
    exact events_of_visit (e.visited_at policy p now memory hk).2.1
  · intro k v hv
    obtain ⟨hs,ran,hp,_⟩ := e.visited_at policy p now memory hv
    refine ⟨hs,fun i a ha => ?_⟩
    obtain ⟨name,start,remembered,hn,rfl,hl⟩ := attempts_asked ha
    refine ⟨fun hm => siblings_of_parallel hm i,hl,?_,?_⟩
    · intro scanner config told
      obtain ⟨rfl,ht⟩ := Registry.tells_scan told
      rw [Pipeline.tool_configFor] at ht
      cases ht
      rw [← hp]
      exact ⟨hn,p.briefs_configFor ..⟩
    · intro results handed
      cases hc : p.check with
      | error error => simp [e.visited_of_refused policy p now memory hc] at hv
      | ok =>
        have course := e.visited_course policy p now memory hc
        obtain ⟨error,ended⟩ := course.ended_of_results handed (List.mem_of_getElem? hv)
        rw [e.results_of_run policy p now memory handed]
        have hf := (List.prefix_append_right_inj (accumulated ((e.visited policy p now memory).take k))).mpr
          (siblings_prefix_found ran ended ha)
        have ht := accumulated_take_prefix hv
        exact hf.trans ht

/-- The options of the first stage name a tool, which is not heeded. -/
def toolInOptions : Pipeline where
  name := "audit"
  projectId := 7
  target := "example.com"
  stages := [Stage.withOptions { name := "names", scanners := ["dns","dns"] } [("tool","whois"),("ports","80")],
    { name := "owners", scanners := ["dns","whois"], parallel := true }]
  timeout := some (.minutes 5)

theorem runPipeline_toolInOptions :
    ∃ first second, (halfFailing.visited .ofPipeline toolInOptions 0 ())[0]? = some first ∧
      (halfFailing.visited .ofPipeline toolInOptions 0 ())[1]? = some second ∧
      first.stage.parallel = false ∧ second.stage.parallel = true ∧
      ∃ a b, (halfFailing.attempts toolInOptions (.minutes 5) first)[1]? = some a ∧
        (halfFailing.attempts toolInOptions (.minutes 5) second)[1]? = some b ∧
        (∃ config, a.Tells "dns" config ∧ config.projectId = 7 ∧ config.tool = some "dns" ∧
          config.options.get? "ports" = some "80" ∧ config.timeout = .minutes 5 ∧
          config.parents.length = 1) ∧
        (∃ config, b.Tells "whois" config ∧ config.tool = some "whois" ∧
          config.options.get? "ports" = none ∧ config.parents.map (·.scanner) = ["dns","dns"]) ∧
        ∃ results, (halfFailing.runPipeline .ofPipeline toolInOptions 0 ()).verdict.results? = some results ∧
          first.run.found <+: results := by
  obtain ⟨_,briefed⟩ := halfFailing.runPipeline_briefs .ofPipeline toolInOptions 0 ()
  refine ⟨_,_,rfl,rfl,rfl,rfl,_,_,rfl,rfl,?_,?_,_,rfl,?_⟩
  · obtain ⟨_,entries⟩ := briefed 0 _ rfl
    obtain ⟨_,serial,told,_⟩ := entries 1 _ rfl
    refine ⟨_,Or.inl (List.mem_of_getElem? (i := 1) rfl),?_⟩
    obtain ⟨_,b⟩ := told "dns" _ (Or.inl (List.mem_of_getElem? (i := 1) rfl))
    exact ⟨b.projectId,b.tool,(b.option "ports" (by decide)).trans rfl,b.timeout,
      (congrArg List.length b.parents).trans (serial rfl)⟩
  · obtain ⟨_,entries⟩ := briefed 1 _ rfl
    obtain ⟨parallel,_,told,_⟩ := entries 1 _ rfl
    refine ⟨_,Or.inl (List.mem_of_getElem? (i := 1) rfl),?_⟩
    obtain ⟨_,b⟩ := told "whois" _ (Or.inl (List.mem_of_getElem? (i := 1) rfl))
    have hp := b.parents.trans (congrArg (_ ++ ·) (parallel rfl))
    exact ⟨b.tool,(b.option "ports" (by decide)).trans rfl,(congrArg (List.map (·.scanner)) hp).trans rfl⟩
  · obtain ⟨_,entries⟩ := briefed 1 _ rfl
    obtain ⟨parallel,_,_,front⟩ := entries 1 _ rfl
    have h := front _ rfl
    rw [parallel rfl,List.append_nil] at h
    exact h

end Pipeline
end Engine
end Recon
