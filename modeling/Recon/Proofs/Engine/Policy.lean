import Recon.Proofs.Engine.Lockstep

/-! The two ways to meet an error. A pipeline that stops at the first error does, up to there, what it does
when it continues: what it hands out is the front of what it would hand out. Between two runs in different
times this holds of predictable scanners, if the tasks of each stage arrive in one order. -/
namespace Recon

variable {σ σ₁ σ₂ : Type}

/-- The pipeline, to be stopped by the first error. -/
def Pipeline.stopping (p : Pipeline) : Pipeline := { p with continueOnError := false }

/-- The pipeline, to be continued after errors. -/
def Pipeline.continuing (p : Pipeline) : Pipeline := { p with continueOnError := true }

def Visit.Errs (v : Visit σ) : Prop := ∃ found error, v.run.verdict = .ended found (some error)

lemma Pipeline.goesOn_continuing {p : Pipeline} {s : StageRun σ} (h : p.stopping.goesOn s = true) :
    p.continuing.goesOn s = true := by
  unfold goesOn at *
  cases hv : s.verdict with
  | ended found error => simp [continuing]
  | crashed text => simp [hv] at h

def PipelineVerdict.map (f : ScanResult → ScanResult) : PipelineVerdict → PipelineVerdict
  | .finished results => .finished (results.map f)
  | .stopped error results => .stopped error (results.map f)
  | .crashed text => .crashed text

@[simp] lemma PipelineVerdict.map_id (d : PipelineVerdict) : d.map id = d := by
  cases d <;> simp [map]

/-- What a run comes to that errors cut short, beside the whole run: its results are the front of the other's,
as far as `blur` lets them be seen; without an error the runs come to the same; and the whole run is never
ended by an error of a stage. -/
structure Curtails (blur : ScanResult → ScanResult) (visits : List (Visit σ)) (short long : PipelineVerdict) :
    Prop where
  front : ∃ front whole, short.results? = some front ∧ long.results? = some whole ∧
    front.map blur <+: whole.map blur
  whole : (∀ v ∈ visits, ¬ v.Errs) → short.map blur = long.map blur
  unfailing : ∀ stage cause results, long ≠ .stopped (.stageFailed stage cause) results

lemma Visit.Alike.errs_iff {same : Stage → List ScanResult → List ScanResult → Prop} {v₁ : Visit σ₁}
    {v₂ : Visit σ₂} (h : v₁.Alike same v₂) : v₁.Errs ↔ v₂.Errs := by
  have hr := h.run
  unfold Errs
  generalize v₁.run.verdict = d₁ at hr ⊢
  generalize v₂.run.verdict = d₂ at hr ⊢
  cases hr with
  | crashed text => simp
  | @ended found₁ found₂ error₁ error₂ results errors =>
    cases error₁ <;> cases error₂ <;> simp_all

lemma exists_errs_iff {same : Stage → List ScanResult → List ScanResult → Prop} {visits₁ : List (Visit σ₁)}
    {visits₂ : List (Visit σ₂)} (h : List.Forall₂ (Visit.Alike same) visits₁ visits₂) :
    (∃ v ∈ visits₁, v.Errs) ↔ ∃ v ∈ visits₂, v.Errs := by
  induction h with
  | nil => simp
  | cons hv _ ih => simp [hv.errs_iff,ih]

namespace PipelineVerdict.Alike

variable {verdict₁ verdict₂ : PipelineVerdict}

lemma results {same : List ScanResult → List ScanResult → Prop} (h : verdict₁.Alike same verdict₂)
    {results₂ : List ScanResult} (hr : verdict₂.results? = some results₂) :
    ∃ results₁, verdict₁.results? = some results₁ ∧ same results₁ results₂ := by
  cases h with
  | finished hs | unmet _ _ hs | failed _ _ _ hs =>
    cases hr
    exact ⟨_,rfl,hs⟩
  | crashed text => cases hr

/-- Only the cause of a failed stage can differ. -/
theorem map_eq {f : ScanResult → ScanResult} (h : verdict₁.Alike (fun r₁ r₂ => r₁.map f = r₂.map f) verdict₂)
    (unfailed : ∀ stage cause results, verdict₁ ≠ .stopped (.stageFailed stage cause) results) :
    verdict₁.map f = verdict₂.map f := by
  cases h with
  | finished hs => simp [PipelineVerdict.map,hs]
  | unmet _ _ hs => simp [PipelineVerdict.map,hs]
  | failed => exact absurd rfl (unfailed _ _ _)
  | crashed text => rfl

end PipelineVerdict.Alike

namespace Engine

section Alone

variable (e : Engine σ) (p : Pipeline)

/-- The stages of the stopping run come first in the continuing one, each with the same course. -/
theorem runStages_stopping (timeout : Duration) (stages : List Stage) (index : Nat) (results : List ScanResult)
    (now : Nat) (memory : σ) :
    e.visits p.stopping timeout stages index results now memory <+:
      e.visits p.continuing timeout stages index results now memory ∧
    ((∀ v ∈ e.visits p.stopping timeout stages index results now memory, ¬ v.Errs) →
      (e.runStages p.stopping timeout stages index results now memory).verdict =
        (e.runStages p.continuing timeout stages index results now memory).verdict) := by
  induction stages generalizing index results now memory with
  | nil => exact ⟨List.nil_prefix,fun _ => rfl⟩
  | cons stage stages ih =>
    by_cases met : missingDependencies stage.dependsOn results = []
    · obtain ⟨s,ran⟩ : ∃ s, s = e.runStage p.stopping timeout index stage results now memory := ⟨_,rfl⟩
      -- a stage does not know the policy
      have ran' : s = e.runStage p.continuing timeout index stage results now memory := ran
      cases goes : p.stopping.goesOn s with
      | true =>
        obtain ⟨hv,hr,_⟩ := e.step_next p.stopping timeout met ran goes
        obtain ⟨hv',hr',_⟩ := e.step_next p.continuing timeout met ran' (Pipeline.goesOn_continuing goes)
        obtain ⟨front,whole⟩ := ih (index + 1) (results ++ s.found) s.finish s.memory
        rw [hv,hv',hr,hr']
        exact ⟨List.cons_prefix_cons.mpr ⟨rfl,front⟩,fun h => whole fun v hm => h v (List.mem_cons_of_mem _ hm)⟩
      | false =>
        obtain ⟨hv,_,last⟩ := e.step_last p.stopping timeout met ran goes
        rw [hv]
        -- a crash ends both runs, an error only the one that stops
        obtain ⟨text,hs,hr⟩ | ⟨error,hs,_,_⟩ := last
        · have goes' : p.continuing.goesOn s = false := by simp only [Pipeline.goesOn,hs]
          obtain ⟨hv',_,⟨text',hs',hr'⟩ | ⟨_,hs',_,_⟩⟩ := e.step_last p.continuing timeout met ran' goes'
          · rw [hs] at hs'
            cases hs'
            rw [hv',hr,hr']
            exact ⟨List.prefix_rfl,fun _ => rfl⟩
          · rw [hs] at hs'
            cases hs'
        · refine ⟨?_,fun h => absurd ⟨_,error,hs⟩ (h _ List.mem_cons_self)⟩
          have goes' : p.continuing.goesOn s = true := by simp [Pipeline.goesOn,hs,Pipeline.continuing]
          rw [(e.step_next p.continuing timeout met ran' goes').1]
          exact List.cons_prefix_cons.mpr ⟨rfl,List.nil_prefix⟩
    · obtain ⟨hv,hr⟩ := e.step_unmet p.stopping timeout met
      obtain ⟨hv',hr'⟩ := e.step_unmet p.continuing timeout met
      rw [hv,hv',hr,hr']
      exact ⟨List.prefix_rfl,fun _ => rfl⟩

variable (policy : StageTimeout) (now : Nat) (memory : σ)

lemma runPipeline_stopping :
    e.visited policy p.stopping now memory <+: e.visited policy p.continuing now memory ∧
    ((∀ v ∈ e.visited policy p.stopping now memory, ¬ v.Errs) →
      (e.runPipeline policy p.stopping now memory).verdict =
        (e.runPipeline policy p.continuing now memory).verdict) := by
  have checked : p.stopping.check = p.continuing.check := rfl
  unfold visited runPipeline
  rw [checked]
  cases p.continuing.check with
  | error error => exact ⟨List.prefix_rfl,fun _ => rfl⟩
  | ok => exact e.runStages_stopping p (policy.resolve p) p.stages 0 [] now memory

/-- An error ends a run only where it is to be stopped by errors, and an error of one of its stages. -/
theorem errs_of_stageFailed {stage : String} {cause : ScanError} {results : List ScanResult}
    (h : (e.runPipeline policy p now memory).verdict = .stopped (.stageFailed stage cause) results) :
    p.continueOnError = false ∧ ∃ v ∈ e.visited policy p now memory, v.Errs := by
  cases hc : p.check with
  | error error =>
    obtain ⟨_,_,_,_,rfl,_⟩ := Pipeline.first_unscheduled_of_check hc
    rw [e.runPipeline_of_refused policy p now memory hc] at h
    cases h
  | ok =>
    have course := e.visited_course policy p now memory hc
    obtain ⟨hv,_⟩ | ⟨_,_,_,hv,_⟩ | ⟨before,v,hb,_,_,⟨found,error,he,stops,_⟩ | ⟨text,_,hv⟩⟩ := course.ending
    · rw [h] at hv; cases hv
    · rw [h] at hv; cases hv
    · exact ⟨stops,v,by rw [hb]; simp,found,error,he⟩
    · rw [h] at hv; cases hv

/-- In one and the same world the two policies differ in nothing before the first error, not even in time. -/
theorem curtails_alone (safe : e.registry.VerifiesSafely) :
    Curtails id (e.visited policy p.stopping now memory) (e.runPipeline policy p.stopping now memory).verdict
      (e.runPipeline policy p.continuing now memory).verdict := by
  obtain ⟨⟨rest,hv⟩,whole⟩ := e.runPipeline_stopping p policy now memory
  refine ⟨⟨_,_,results_of_verifiesSafely safe ..,results_of_verifiesSafely safe ..,?_⟩,?_,?_⟩
  · rw [← hv,accumulated_append,List.map_id,List.map_id]
    exact List.prefix_append _ _
  · intro h
    rw [whole h]
  · intro stage cause results h
    cases (e.errs_of_stageFailed p.continuing policy now memory h).1

end Alone

section Pair

/-- The tasks of a stage, each where its entry stands. -/
def tasksOf (e : Engine σ) (p : Pipeline) (timeout : Duration) (v : Visit σ) : List (Attempt σ) :=
  e.tasks v.stage.name (fun name => p.configFor timeout v.stage name v.previous) v.stage.scanners v.start v.memory

/-- The tasks of stage `k` arrive in the order that the places of their entries tell. -/
def ArrivesBy (e : Engine σ) (p : Pipeline) (timeout : Duration) (k : Nat) (v : Visit σ) (places : List Nat) :
    Prop :=
  e.arrival.order k (e.tasksOf p timeout v) = places.filterMap fun i => (e.tasksOf p timeout v)[i]?

/-- In parallel stages of the same number the tasks arrive in the same order. -/
def ArriveAlike (e₁ : Engine σ₁) (e₂ : Engine σ₂) (p : Pipeline) (timeout : Duration)
    (visits₁ : List (Visit σ₁)) (visits₂ : List (Visit σ₂)) : Prop :=
  ∀ k v₁ v₂, visits₁[k]? = some v₁ → visits₂[k]? = some v₂ → v₁.stage.parallel = true →
    ∃ places, e₁.ArrivesBy p timeout k v₁ places ∧ e₂.ArrivesBy p timeout k v₂ places

lemma ArrivesBy.timeless_runParallel {e₁ : Engine σ₁} {e₂ : Engine σ₂} {p : Pipeline} {timeout : Duration}
    {k : Nat} {v₁ : Visit σ₁} {v₂ : Visit σ₂} {places : List Nat} (h₁ : e₁.ArrivesBy p timeout k v₁ places)
    (h₂ : e₂.ArrivesBy p timeout k v₂ places) (tasks : (e₁.tasksOf p timeout v₁).map (·.verdict.timeless) =
      (e₂.tasksOf p timeout v₂).map (·.verdict.timeless)) :
    (e₁.runParallel k v₁.stage.name (fun name => p.configFor timeout v₁.stage name v₁.previous) v₁.stage.scanners
      v₁.start v₁.memory).verdict.timeless =
    (e₂.runParallel k v₂.stage.name (fun name => p.configFor timeout v₂.stage name v₂.previous) v₂.stage.scanners
      v₂.start v₂.memory).verdict.timeless := by
  have arrived : (e₁.arrival.order k (e₁.tasksOf p timeout v₁)).map (·.verdict.timeless) =
      (e₂.arrival.order k (e₂.tasksOf p timeout v₂)).map (·.verdict.timeless) := by
    rw [h₁,h₂,List.map_filterMap,List.map_filterMap]
    simp only [← List.getElem?_map,tasks]
  unfold tasksOf at arrived
  rw [runParallel_verdict,runParallel_verdict]
  simp only [StageVerdict.timeless,Attempt.filterMap_result?_timeless,Attempt.findSome?_error?_timeless,arrived,
    Engine.arrived]

variable {e₁ : Engine σ₁} {e₂ : Engine σ₂} {outcome : String → ScanConfig → Ending}

/-- A stage that starts with the same results comes to the same at any time, if its tasks arrive alike. -/
theorem timeless_runStage (registry : e₁.registry = e₂.registry)
    (predictable₁ : e₁.Predictable ScanConfig.timeless outcome)
    (predictable₂ : e₂.Predictable ScanConfig.timeless outcome) (safe : e₁.registry.VerifiesSafely)
    {p : Pipeline} {timeout : Duration} {k : Nat} {v₁ : Visit σ₁} {v₂ : Visit σ₂} (stage : v₁.stage = v₂.stage)
    (same : v₁.previous.map ScanResult.timeless = v₂.previous.map ScanResult.timeless)
    (alike : v₁.stage.parallel = true → ∃ places, e₁.ArrivesBy p timeout k v₁ places ∧
      e₂.ArrivesBy p timeout k v₂ places) :
    (e₁.runStage p timeout k v₁.stage v₁.previous v₁.start v₁.memory).verdict.timeless =
      (e₂.runStage p timeout k v₂.stage v₂.previous v₂.start v₂.memory).verdict.timeless := by
  cases hm : v₁.stage.parallel with
  | true =>
    obtain ⟨places,arrives₁,arrives₂⟩ := alike hm
    have tasks : (e₁.tasksOf p timeout v₁).map (·.verdict.timeless) =
        (e₂.tasksOf p timeout v₂).map (·.verdict.timeless) := by
      unfold tasksOf
      rw [e₁.tasks_eq_of_safe _ _ _ _ _ safe,e₂.tasks_eq_of_safe _ _ _ _ _ (registry ▸ safe)]
      rw [predictable₁.verdicts_startAll,predictable₂.verdicts_startAll,registry,stage]
      -- the parents differ in nothing but their times
      have seen (name : String) : (p.configFor timeout v₂.stage name v₁.previous).timeless =
          (p.configFor timeout v₂.stage name v₂.previous).timeless := by
        rw [Pipeline.timeless_configFor,Pipeline.timeless_configFor,same]
      exact List.map_congr_left fun name _ => Registry.forecast_configFor_congr (seen name)
    rw [e₁.runStage_of_parallel _ _ _ _ _ _ _ hm,e₂.runStage_of_parallel _ _ _ _ _ _ _ (stage ▸ hm)]
    exact arrives₁.timeless_runParallel arrives₂ tasks
  | false =>
    rw [e₁.runStage_of_serial _ _ _ _ _ _ _ hm,e₂.runStage_of_serial _ _ _ _ _ _ _ (stage ▸ hm)]
    rw [predictable₁.verdict_runSerial ScanConfig.timeless_timeless,
      predictable₂.verdict_runSerial ScanConfig.timeless_timeless,same,registry,stage]

/-- Stopped at errors, the two runs stay in step. -/
theorem stopping_alike (registry : e₁.registry = e₂.registry)
    (predictable₁ : e₁.Predictable ScanConfig.timeless outcome)
    (predictable₂ : e₂.Predictable ScanConfig.timeless outcome) (safe : e₁.registry.VerifiesSafely)
    (policy : StageTimeout) (p : Pipeline) (now₁ now₂ : Nat) (memory₁ : σ₁) (memory₂ : σ₂)
    (arrive : ArriveAlike e₁ e₂ p (policy.resolve p) (e₁.visited policy p.stopping now₁ memory₁)
      (e₂.visited policy p.continuing now₂ memory₂)) :
    List.Forall₂ (Visit.Alike fun _ r₁ r₂ => r₁.map ScanResult.timeless = r₂.map ScanResult.timeless)
      (e₁.visited policy p.stopping now₁ memory₁) (e₂.visited policy p.stopping now₂ memory₂) ∧
    (e₁.runPipeline policy p.stopping now₁ memory₁).verdict.Alike
      (fun r₁ r₂ => r₁.map ScanResult.timeless = r₂.map ScanResult.timeless)
      (e₂.runPipeline policy p.stopping now₂ memory₂).verdict := by
  obtain ⟨⟨rest,front⟩,_⟩ := e₂.runPipeline_stopping p policy now₂ memory₂
  apply runPipeline_alike p.stopping
  · intro _ _ _ _ _ hr hf
    rw [List.map_append,List.map_append,hr,hf]
  · intro dependsOn _ _ hr
    exact Reordered.missingDependencies_eq (.of_eq hr) dependsOn
  · rfl
  · intro k v₁ v₂ hv₁ hv₂ stage previous
    have continued : (e₂.visited policy p.continuing now₂ memory₂)[k]? = some v₂ := by
      rw [← front,List.getElem?_append_left (List.getElem?_eq_some_iff.mp hv₂).1,hv₂]
    apply StageVerdict.alike_of_timeless fun _ _ h => h
    rw [(e₁.visited_at policy p.stopping now₁ memory₁ hv₁).2.1,
      (e₂.visited_at policy p.stopping now₂ memory₂ hv₂).2.1]
    exact timeless_runStage registry predictable₁ predictable₂ safe stage previous
      (arrive k v₁ v₂ hv₁ continued)

/-- Stopping at the first error gives the front of what continuing gives. In one world this is so to the
moment; it stays so between two worlds for scanners that cannot tell them apart, but for the times. Where no
stage errs the policy does not matter, and the run that continues is never ended by a stage that failed. -/
theorem stopping_curtails_continuing (e₁ : Engine σ₁) (safe : e₁.registry.VerifiesSafely) (policy : StageTimeout)
    (p : Pipeline) (now₁ : Nat) (memory₁ : σ₁) :
    Curtails id (e₁.visited policy p.stopping now₁ memory₁)
      (e₁.runPipeline policy p.stopping now₁ memory₁).verdict
      (e₁.runPipeline policy p.continuing now₁ memory₁).verdict ∧
    ∀ (e₂ : Engine σ₂) (outcome : String → ScanConfig → Ending) (now₂ : Nat) (memory₂ : σ₂),
      e₁.registry = e₂.registry → e₁.Predictable ScanConfig.timeless outcome →
      e₂.Predictable ScanConfig.timeless outcome →
      ArriveAlike e₁ e₂ p (policy.resolve p) (e₁.visited policy p.stopping now₁ memory₁)
        (e₂.visited policy p.continuing now₂ memory₂) →
      Curtails ScanResult.timeless (e₁.visited policy p.stopping now₁ memory₁)
        (e₁.runPipeline policy p.stopping now₁ memory₁).verdict
        (e₂.runPipeline policy p.continuing now₂ memory₂).verdict := by
  refine ⟨e₁.curtails_alone p policy now₁ memory₁ safe,?_⟩
  intro e₂ outcome now₂ memory₂ registry predictable₁ predictable₂ arrive
  obtain ⟨visits,alike⟩ := stopping_alike registry predictable₁ predictable₂ safe policy p now₁ now₂ memory₁
    memory₂ arrive
  obtain ⟨⟨results,long,hs,hl,front⟩,whole,unfailing⟩ := e₂.curtails_alone p policy now₂ memory₂ (registry ▸ safe)
  obtain ⟨short,hs,same⟩ := alike.results hs
  refine ⟨⟨short,long,hs,hl,?_⟩,fun unerring => ?_,unfailing⟩
  · rw [same]
    rw [List.map_id,List.map_id] at front
    exact front.map _
  · -- the stopping run in the other world has no error either, so there the policy does not matter
    have unerring₂ : ∀ v ∈ e₂.visited policy p.stopping now₂ memory₂, ¬ v.Errs := by
      simpa using mt (exists_errs_iff visits).mpr (by simpa using unerring)
    have policies := whole unerring₂
    rw [PipelineVerdict.map_id,PipelineVerdict.map_id] at policies
    rw [← policies]
    apply alike.map_eq
    intro stage cause results h
    obtain ⟨_,v,hv,errs⟩ := e₁.errs_of_stageFailed p.stopping policy now₁ memory₁ h
    exact unerring v hv errs

end Pair

/-- The stage in the middle fails; its tasks arrive in the reverse of their order. -/
def interrupted : Pipeline :=
  { scattered with stages := scattered.stages ++ [{ name := "again", scanners := ["dns"] }] }

theorem stopping_curtails_continuing_interrupted :
    halfFailing.registry.VerifiesSafely ∧ halfFailing.Predictable ScanConfig.timeless halfFailingOutcome ∧
    ArriveAlike halfFailing halfFailing interrupted (StageTimeout.ofPipeline.resolve interrupted)
      (halfFailing.visited .ofPipeline interrupted.stopping 0 ())
      (halfFailing.visited .ofPipeline interrupted.continuing 5 ()) ∧
    ∃ front whole,
      (halfFailing.runPipeline .ofPipeline interrupted.stopping 0 ()).verdict =
        .stopped (.stageFailed "owners" (.scannerNotFound "nmap")) front ∧
      (halfFailing.runPipeline .ofPipeline interrupted.continuing 5 ()).verdict = .finished whole ∧
      front.map (·.scanner) = ["dns","dns","whois"] ∧ whole.map (·.scanner) = ["dns","dns","whois","dns"] ∧
      front.map ScanResult.timeless <+: whole.map ScanResult.timeless := by
  have safe := verifiesSafely_halfFailing
  have predictable := predictable_halfFailing ScanConfig.timeless halfFailing.arrival
  have arrive : ArriveAlike halfFailing halfFailing interrupted (StageTimeout.ofPipeline.resolve interrupted)
      (halfFailing.visited .ofPipeline interrupted.stopping 0 ())
      (halfFailing.visited .ofPipeline interrupted.continuing 5 ()) := by
    intro k v₁ v₂ hv₁ hv₂ parallel
    match k with
    | 0 =>
      cases hv₁
      cases parallel
    | 1 =>
      cases hv₁
      cases hv₂
      exact ⟨[2,1,0],rfl,rfl⟩
    | k + 2 => cases hv₁
  obtain ⟨_,curtails⟩ := stopping_curtails_continuing halfFailing safe .ofPipeline interrupted 0 ()
  obtain ⟨⟨front,whole,hs,hl,hp⟩,_,_⟩ := curtails halfFailing halfFailingOutcome 5 () rfl predictable predictable
    arrive
  cases hs
  cases hl
  exact ⟨safe,predictable,arrive,_,_,rfl,rfl,rfl,rfl,hp⟩

end Engine
end Recon
