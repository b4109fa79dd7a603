import Mathlib.Data.List.Forall2
import Recon.Proofs.Engine.Policy
import Recon.Proofs.Tool.Blind

/-! Two runs at different times of pipelines that match. Where no scanner sees the order of its options or the times of
earlier results, and the order of arrival does not hang on the calendar either, both runs go the same way: the same jobs
at the same moments of the clock, and results that differ only in their times. -/
namespace Recon

variable {σ : Type}

/-- The same world at another time. -/
def World.dated (w : World σ) (calendar : Nat → Moment) : World σ := { w with calendar := calendar }

/-- What shows of one course, beside what shows of another. -/
inductive Event.Matches : Event → Event → Prop
  | dispatched {c c' : ScanConfig} (same : c.Matches c') : Matches (.dispatched c) (.dispatched c')
  | verified (scanner : String) {c c' : ScanConfig} (same : c.Matches c') :
      Matches (.verified scanner c) (.verified scanner c')
  | entered (scanner : String) {c c' : ScanConfig} (same : c.Matches c') :
      Matches (.entered scanner c) (.entered scanner c')

/-- Attempts that differ only in what the calendar said. -/
structure Attempt.Matches (a a' : Attempt σ) : Prop where
  verdict : a.verdict.timeless = a'.verdict.timeless
  events : List.Forall₂ Event.Matches a.events a'.events
  warnings : a.warnings = a'.warnings
  finish : a.finish = a'.finish
  memory : a.memory = a'.memory

structure StageRun.Matches (s s' : StageRun σ) : Prop where
  verdict : s.verdict.timeless = s'.verdict.timeless
  events : List.Forall₂ Event.Matches s.events s'.events
  warnings : s.warnings = s'.warnings
  finish : s.finish = s'.finish
  memory : s.memory = s'.memory

structure PipelineRun.Matches (run run' : PipelineRun σ) : Prop where
  verdict : run.verdict.map ScanResult.timeless = run'.verdict.map ScanResult.timeless
  events : List.Forall₂ Event.Matches run.events run'.events
  warnings : run.warnings = run'.warnings
  finish : run.finish = run'.finish
  memory : run.memory = run'.memory

/-- The arrivals of attempts that match are attempts that match. -/
def Arrival.Steady (arrival : Arrival σ) : Prop :=
  ∀ (index : Nat) {attempts attempts' : List (Attempt σ)}, List.Forall₂ Attempt.Matches attempts attempts' →
    List.Forall₂ Attempt.Matches (arrival.order index attempts) (arrival.order index attempts')

/-- A job does not look at the calendar. -/
theorem Job.run_dated (w : World σ) (calendar : Nat → Moment) (l : Limits) (j : Job) (now : Nat) (memory : σ) :
    j.run (w.dated calendar) l now memory = j.run w l now memory := by
  induction j generalizing now memory with
  | finish | fail | crash => rfl
  | sleep nanos next ih => simp only [run,ih]
  | launch command limit next ih => simp only [run,ih]; rfl
  | resolve hosts next ih => exact ih ..
  | warn warning next ih => simp only [run,ih]

section Scan

variable {c c' : ScanConfig} (same : c.Matches c') (w : World σ) (calendar : Nat → Moment) (now : Nat) (memory : σ)

include same

namespace Scanner

variable {s : Scanner} (blind : s.Blind)

include blind

lemma runJob_matches : (s.runJob w c now memory).1 = (s.runJob (w.dated calendar) c' now memory).1 ∧
    List.Forall₂ Event.Matches (s.runJob w c now memory).2 (s.runJob (w.dated calendar) c' now memory).2 := by
  have given : (w.dated calendar).cancelAt = w.cancelAt := rfl
  unfold runJob
  rw [(blind c c' same).2,same.timeout,given]
  simp only [Job.run_dated]
  have started : List.Forall₂ Event.Matches [.entered s.name c] [.entered s.name c'] :=
    .cons (.entered s.name same) .nil
  cases w.cancelAt with
  | none => exact ⟨rfl,started⟩
  | some moment =>
    by_cases late : moment ≤ now
    · simp only [late,decide_true,if_true]
      exact ⟨trivial,.nil⟩
    · simp only [late,decide_false,Bool.false_eq_true,if_false]
      exact ⟨trivial,started⟩

lemma attempt_matches :
    (s.attempt w c now memory).Matches (s.attempt (w.dated calendar) c' now memory) := by
  obtain ⟨job,events⟩ := runJob_matches same w calendar now memory blind
  unfold attempt
  simp only [← job,← same.timeout,← same.target]
  cases (s.runJob w c now memory).1.ending.outcome s.name s.category c.timeout with
  | ok payload => exact ⟨rfl,events,rfl,rfl,rfl⟩
  | error error => exact ⟨rfl,events,rfl,rfl,rfl⟩

end Scanner

lemma Registry.scan_matches {r : Registry} (blind : ∀ s ∈ r.scanners, s.Blind) :
    (r.scan w c now memory).Matches (r.scan (w.dated calendar) c' now memory) := by
  unfold scan
  rw [same.tool]
  cases c'.tool with
  | none => exact ⟨rfl,.cons (.dispatched same) .nil,rfl,rfl,rfl⟩
  | some name =>
    cases hg : r.get name with
    | error error =>
      simp only [hg]
      exact ⟨rfl,.cons (.dispatched same) .nil,rfl,rfl,rfl⟩
    | ok s =>
      have hs := blind s (mem_of_get hg).1
      have asked : List.Forall₂ Event.Matches [.dispatched c,.verified s.name c] [.dispatched c',.verified s.name c'] :=
        .cons (.dispatched same) (.cons (.verified s.name same) .nil)
      simp only [hg,(hs c c' same).1]
      cases s.verify c' with
      | crashed text => exact ⟨rfl,asked,rfl,rfl,rfl⟩
      | refused error => exact ⟨rfl,asked,rfl,rfl,rfl⟩
      | accepted =>
        have attempt := Scanner.attempt_matches same w calendar now memory hs
        exact ⟨attempt.verdict,List.rel_append asked attempt.events,attempt.warnings,attempt.finish,attempt.memory⟩

end Scan

lemma Verdict.timeless_cases {v v' : Verdict} (h : v.timeless = v'.timeless) :
    (∃ x x', v = .completed x ∧ v' = .completed x' ∧ x.timeless = x'.timeless) ∨
    (∃ error result result', v = .failed error result ∧ v' = .failed error result') ∨
    ∃ text, v = .crashed text ∧ v' = .crashed text := by
  cases v with
  | completed x =>
    cases v' with
    | completed x' => exact .inl ⟨x,x',rfl,rfl,completed.inj h⟩
    | failed | crashed => cases h
  | failed error result =>
    cases v' with
    | failed error' result' =>
      obtain ⟨rfl,_⟩ := failed.inj h
      exact .inr (.inl ⟨error,result,result',rfl,rfl⟩)
    | completed | crashed => cases h
  | crashed text =>
    cases v' with
    | crashed text' =>
      obtain rfl := crashed.inj h
      exact .inr (.inr ⟨text,rfl,rfl⟩)
    | completed | failed => cases h

lemma StageVerdict.timeless_cases {v v' : StageVerdict} (h : v.timeless = v'.timeless) :
    (∃ found found' error, v = .ended found error ∧ v' = .ended found' error ∧
      found.map ScanResult.timeless = found'.map ScanResult.timeless) ∨
    ∃ text, v = .crashed text ∧ v' = .crashed text := by
  cases v with
  | ended found error =>
    cases v' with
    | ended found' error' =>
      obtain ⟨told,rfl⟩ := ended.inj h
      exact .inl ⟨found,found',error,rfl,rfl,told⟩
    | crashed text => cases h
  | crashed text =>
    cases v' with
    | ended found' error' => cases h
    | crashed text' =>
      obtain rfl := crashed.inj h
      exact .inr ⟨text,rfl,rfl⟩

namespace Attempt.Matches

/-- Whatever is told of each attempt without the calendar is told of all. -/
theorem map_eq {α : Type} {f : Attempt σ → α} (told : ∀ {a a' : Attempt σ}, a.Matches a' → f a = f a')
    {attempts attempts' : List (Attempt σ)} (h : List.Forall₂ Attempt.Matches attempts attempts') :
    attempts.map f = attempts'.map f := by
  induction h with
  | nil => rfl
  | cons first _ ih => rw [List.map_cons,List.map_cons,told first,ih]

lemma asTask {a a' : Attempt σ} (h : a.Matches a') (stage : String) (i : Nat) :
    (a.asTask stage i).Matches (a'.asTask stage i) := by
  obtain ⟨verdict,events,warnings,finish,memory⟩ := h
  unfold Attempt.asTask
  obtain ⟨x,x',hv,hv',_⟩ | ⟨error,result,result',hv,hv'⟩ | ⟨text,hv,hv'⟩ := Verdict.timeless_cases verdict
  · rw [hv,hv']
    exact ⟨verdict,events,warnings,finish,memory⟩
  · rw [hv,hv']
    exact ⟨verdict,events,warnings,finish,memory⟩
  · rw [hv,hv']
    exact ⟨rfl,events,warnings,finish,memory⟩

lemma mapIdx_asTask {attempts attempts' : List (Attempt σ)} (h : List.Forall₂ Attempt.Matches attempts attempts')
    (stage : String) : List.Forall₂ Attempt.Matches (attempts.mapIdx fun i a => a.asTask stage i)
      (attempts'.mapIdx fun i a => a.asTask stage i) := by
  rw [List.mapIdx_eq_zipIdx_map,List.mapIdx_eq_zipIdx_map]
  generalize 0 = k
  induction h generalizing k with
  | nil => exact .nil
  | cons first _ ih => exact .cons (first.asTask stage k) (ih (k + 1))

end Attempt.Matches

/-- Configurations for a scanner that match after results that differ only in their times. -/
def MatchingConfigs (config config' : String → List ScanResult → ScanConfig) : Prop :=
  ∀ (name : String) {parents parents' : List ScanResult},
    parents.map ScanResult.timeless = parents'.map ScanResult.timeless →
      (config name parents).Matches (config' name parents')

/-- The same engine at another time. -/
def Engine.dated (e : Engine σ) (calendar : Nat → Moment) : Engine σ := { e with world := e.world.dated calendar }

namespace Engine

variable (e : Engine σ) (calendar : Nat → Moment) (blind : ∀ s ∈ e.registry.scanners, s.Blind)
  {config config' : String → List ScanResult → ScanConfig} (same : MatchingConfigs config config')
  {previous previous' : List ScanResult}
  (before : previous.map ScanResult.timeless = previous'.map ScanResult.timeless)

include blind same before

lemma runSerial_matches {done done' : List ScanResult}
    (so : done.map ScanResult.timeless = done'.map ScanResult.timeless) (names : List String) (now : Nat) (memory : σ) :
    (e.runSerial config previous done names now memory).Matches
      ((e.dated calendar).runSerial config' previous' done' names now memory) := by
  induction names generalizing done done' now memory with
  | nil => exact ⟨congrArg (StageVerdict.ended · none) so,.nil,rfl,rfl,rfl⟩
  | cons name names ih =>
    have parents : (previous ++ done).map ScanResult.timeless = (previous' ++ done').map ScanResult.timeless := by
      rw [List.map_append,List.map_append,before,so]
    have first := Registry.scan_matches (same name parents) e.world calendar now memory blind
    have registry : (e.dated calendar).registry = e.registry := rfl
    have world : (e.dated calendar).world = e.world.dated calendar := rfl
    unfold runSerial
    rw [registry,world]
    generalize e.registry.scan e.world (config name (previous ++ done)) now memory = a at first ⊢
    generalize e.registry.scan (e.world.dated calendar) (config' name (previous' ++ done')) now memory = a' at first ⊢
    obtain ⟨x,x',hv,hv',result⟩ | ⟨error,result,result',hv,hv'⟩ | ⟨text,hv,hv'⟩ := Verdict.timeless_cases first.verdict
    · have found : (done ++ [x]).map ScanResult.timeless = (done' ++ [x']).map ScanResult.timeless := by
        simp only [List.map_append,so,List.map_cons,result,List.map_nil]
      have rest := ih found a.finish a.memory
      simp only [hv,hv',← first.finish,← first.memory]
      exact ⟨rest.verdict,List.rel_append first.events rest.events,by rw [first.warnings,rest.warnings],rest.finish,
        rest.memory⟩
    · simp only [hv,hv']
      exact ⟨congrArg (StageVerdict.ended · (some error)) so,first.events,first.warnings,first.finish,first.memory⟩
    · simp only [hv,hv']
      exact ⟨rfl,first.events,first.warnings,first.finish,first.memory⟩

lemma startAll_matches (names : List String) (now : Nat) (memory : σ) :
    List.Forall₂ Attempt.Matches (e.startAll (config · previous) now names memory).1
        ((e.dated calendar).startAll (config' · previous') now names memory).1 ∧
      (e.startAll (config · previous) now names memory).2 =
        ((e.dated calendar).startAll (config' · previous') now names memory).2 := by
  induction names generalizing memory with
  | nil => exact ⟨.nil,rfl⟩
  | cons name names ih =>
    have first := Registry.scan_matches (same name before) e.world calendar now memory blind
    obtain ⟨rest,remembered⟩ := ih (e.registry.scan e.world (config name previous) now memory).memory
    have again := first.memory
    refine ⟨.cons first ?_,?_⟩
    · change List.Forall₂ _ _ ((e.dated calendar).startAll _ now names
        (e.registry.scan (e.world.dated calendar) (config' name previous') now memory).memory).1
      rw [← again]
      exact rest
    · change _ = ((e.dated calendar).startAll _ now names
        (e.registry.scan (e.world.dated calendar) (config' name previous') now memory).memory).2
      rw [← again]
      exact remembered

lemma runParallel_matches (steady : e.arrival.Steady) (index : Nat) (stage : String) (names : List String) (now : Nat)
    (memory : σ) : (e.runParallel index stage (config · previous) names now memory).Matches
      ((e.dated calendar).runParallel index stage (config' · previous') names now memory) := by
  obtain ⟨attempts,remembered⟩ := e.startAll_matches calendar blind same before names now memory
  have arrived := steady index (Attempt.Matches.mapIdx_asTask attempts stage)
  have verdicts := Attempt.Matches.map_eq (f := fun a => a.verdict.timeless) (fun h => h.verdict) arrived
  have warnings := Attempt.Matches.map_eq (f := fun a => a.warnings) (fun h => h.warnings) arrived
  have finishes := Attempt.Matches.map_eq (f := fun a => a.finish) (fun h => h.finish) attempts
  refine ⟨?_,List.rel_flatMap attempts fun _ _ h => h.events,?_,?_,remembered⟩
  · rw [e.runParallel_verdict,(e.dated calendar).runParallel_verdict]
    simp only [StageVerdict.timeless,Attempt.filterMap_result?_timeless,Attempt.findSome?_error?_timeless]
    exact congrArg (fun told => StageVerdict.ended (told.filterMap Verdict.result?) (told.findSome? Verdict.error?))
      verdicts
  · have flat (as : List (Attempt σ)) : as.flatMap (·.warnings) = (as.map (·.warnings)).flatten := rfl
    exact (flat _).trans ((congrArg List.flatten warnings).trans (flat _).symm)
  · have fold (as : List (Attempt σ)) : lastFinish now as = (as.map (·.finish)).foldl max now := by
      rw [List.foldl_map]
      rfl
    exact (fold _).trans ((congrArg (List.foldl max now) finishes).trans (fold _).symm)

end Engine

/-- A run that goes on after a stage. -/
def PipelineRun.afterStage (run : PipelineRun σ) (s : StageRun σ) (warnings : List Warning) : PipelineRun σ :=
  { run with events := s.events ++ run.events, warnings := s.warnings ++ warnings ++ run.warnings }

lemma PipelineRun.Matches.after {run run' : PipelineRun σ} {s s' : StageRun σ} (h : run.Matches run')
    (ran : s.Matches s') (warnings : List Warning) :
    (run.afterStage s warnings).Matches (run'.afterStage s' warnings) :=
  ⟨h.verdict,List.rel_append ran.events h.events,by simp only [afterStage,ran.warnings,h.warnings],h.finish,h.memory⟩

/-- Stages that differ only in the order of their options. -/
structure Stage.Matches (stage stage' : Stage) : Prop where
  name : stage.name = stage'.name
  scanners : stage.scanners = stage'.scanners
  options : ∀ key, stage.options.get? key = stage'.options.get? key
  parallel : stage.parallel = stage'.parallel
  dependsOn : stage.dependsOn = stage'.dependsOn

/-- Pipelines that differ only in their timeout and in the order of options. -/
structure Pipeline.Matches (p p' : Pipeline) : Prop where
  name : p.name = p'.name
  projectId : p.projectId = p'.projectId
  target : p.target = p'.target
  stages : List.Forall₂ Stage.Matches p.stages p'.stages
  continueOnError : p.continueOnError = p'.continueOnError

lemma missingDependencies_timeless (dependsOn : List String) (results : List ScanResult) :
    missingDependencies dependsOn (results.map ScanResult.timeless) = missingDependencies dependsOn results := by
  unfold missingDependencies
  simp only [List.any_map]
  rfl

lemma checkStages_matches {stages stages' : List Stage} (h : List.Forall₂ Stage.Matches stages stages')
    (scheduled : List String) : checkStages scheduled stages = checkStages scheduled stages' := by
  induction h generalizing scheduled with
  | nil => rfl
  | cons first _ ih => simp only [checkStages,first.name,first.scanners,first.dependsOn,ih]

namespace Engine

variable (e : Engine σ) (calendar : Nat → Moment) (blind : ∀ s ∈ e.registry.scanners, s.Blind)
  (steady : e.arrival.Steady) {p p' : Pipeline} (same : p.Matches p') (timeout : Duration)

include same in
lemma matchingConfigs {stage stage' : Stage} (h : stage.Matches stage') :
    MatchingConfigs (p.configFor timeout stage) (p'.configFor timeout stage') := by
  intro name parents parents' told
  refine ⟨same.projectId,same.target,fun key => ?_,rfl,told⟩
  change (stage.options.insert toolOption name).get? key = (stage'.options.insert toolOption name).get? key
  rw [Dict.get?_insert,Dict.get?_insert,h.options]

include blind steady same

lemma runStage_matches {stage stage' : Stage} (h : stage.Matches stage') (index : Nat)
    {previous previous' : List ScanResult}
    (before : previous.map ScanResult.timeless = previous'.map ScanResult.timeless) (now : Nat) (memory : σ) :
    (e.runStage p timeout index stage previous now memory).Matches
      ((e.dated calendar).runStage p' timeout index stage' previous' now memory) := by
  have configs := matchingConfigs same timeout h
  unfold runStage
  rw [← h.parallel,← h.name,← h.scanners]
  split
  · exact e.runParallel_matches calendar blind configs before steady index stage.name stage.scanners now memory
  · exact e.runSerial_matches calendar blind configs before rfl stage.scanners now memory

lemma runStages_matches {stages stages' : List Stage} (h : List.Forall₂ Stage.Matches stages stages') (index : Nat)
    {results results' : List ScanResult}
    (before : results.map ScanResult.timeless = results'.map ScanResult.timeless) (now : Nat) (memory : σ) :
    (e.runStages p timeout stages index results now memory).Matches
      ((e.dated calendar).runStages p' timeout stages' index results' now memory) := by
  induction h generalizing index results results' now memory with
  | nil => exact ⟨congrArg PipelineVerdict.finished before,.nil,rfl,rfl,rfl⟩
  | @cons stage stage' stages stages' first rest ih =>
    have missing : missingDependencies stage'.dependsOn results' = missingDependencies stage.dependsOn results := by
      rw [← missingDependencies_timeless,← before,missingDependencies_timeless,first.dependsOn]
    have ran := e.runStage_matches calendar blind steady same timeout first index before now memory
    unfold runStages
    simp only [missing,← first.name,← same.name,← same.continueOnError]
    split
    · exact ⟨congrArg (PipelineVerdict.stopped _) before,.nil,rfl,rfl,rfl⟩
    generalize e.runStage p timeout index stage results now memory = s at ran ⊢
    generalize (e.dated calendar).runStage p' timeout index stage' results' now memory = s' at ran ⊢
    obtain ⟨found,found',error,hv,hv',told⟩ | ⟨text,hv,hv'⟩ := StageVerdict.timeless_cases ran.verdict
    · have after : (results ++ found).map ScanResult.timeless = (results' ++ found').map ScanResult.timeless := by
        rw [List.map_append,List.map_append,before,told]
      have later := ih (index + 1) after s.finish s.memory
      simp only [hv,hv',← ran.finish,← ran.memory]
      cases error with
      | none => exact later.after ran []
      | some error =>
        dsimp only
        split
        · exact later.after ran _
        · exact ⟨congrArg (PipelineVerdict.stopped _) after,ran.events,ran.warnings,rfl,rfl⟩
    · simp only [hv,hv']
      exact ⟨rfl,ran.events,ran.warnings,ran.finish,ran.memory⟩

lemma runPipeline_matches (policy : StageTimeout) (limits : policy.resolve p = policy.resolve p') (now : Nat)
    (memory : σ) : (e.runPipeline policy p now memory).Matches
      ((e.dated calendar).runPipeline policy p' now memory) := by
  have check : p.check = p'.check := checkStages_matches same.stages []
  unfold runPipeline
  rw [← check,← limits]
  cases p.check with
  | error error => exact ⟨rfl,.nil,rfl,rfl,rfl⟩
  | ok => exact e.runStages_matches calendar blind steady same _ same.stages 0 rfl now memory

end Engine

/-- A sort by what is told of all does not tell them apart: pairs that match are moved together. -/
theorem Arrival.steady_byFinish : (Arrival.byFinish σ).Steady := by
  intro index attempts attempts' h
  have told {pair : Attempt σ × Attempt σ} (hp : pair ∈ attempts.zip attempts') : pair.1.Matches pair.2 :=
    List.forall₂_zip h hp
  let pairs := (attempts.zip attempts').mergeSort fun a b => decide (a.1.finish ≤ b.1.finish)
  have firsts : pairs.map Prod.fst =
      ((attempts.zip attempts').map Prod.fst).mergeSort fun a b => decide (a.finish ≤ b.finish) :=
    List.map_mergeSort fun a _ b _ => rfl
  have seconds : pairs.map Prod.snd =
      ((attempts.zip attempts').map Prod.snd).mergeSort fun a b => decide (a.finish ≤ b.finish) :=
    List.map_mergeSort fun a ha b hb => by rw [(told ha).finish,(told hb).finish]
  rw [List.map_fst_zip (Nat.le_of_eq h.length_eq)] at firsts
  rw [List.map_snd_zip (Nat.le_of_eq h.length_eq.symm)] at seconds
  change List.Forall₂ _ (attempts.mergeSort _) (attempts'.mergeSort _)
  rw [← firsts,← seconds,List.forall₂_map_left_iff,List.forall₂_map_right_iff,List.forall₂_same]
  intro pair hp
  exact told (List.mem_mergeSort.mp hp)

end Recon
