import Recon.Proofs.Engine.Account
import Recon.Proofs.Engine.Dependency
import Recon.Proofs.Engine.Forecast

/-! Two runs of one pipeline side by side. They stay in step as long as each stage comes to the same in both;
where no scan hangs on the results of others, this is so whatever the order in which the tasks of parallel
stages arrive. -/
namespace Recon

variable {σ σ₁ σ₂ : Type}

/-- Stages that end in one way, with results that are `same`; the errors may differ. -/
inductive StageVerdict.Alike (same : List ScanResult → List ScanResult → Prop) :
    StageVerdict → StageVerdict → Prop
  | ended {found₁ found₂ error₁ error₂} (results : same found₁ found₂)
      (errors : error₁ = none ↔ error₂ = none) : Alike same (.ended found₁ error₁) (.ended found₂ error₂)
  | crashed (text) : Alike same (.crashed text) (.crashed text)

/-- Runs that end in one way; the cause of a failed stage may differ. -/
inductive PipelineVerdict.Alike (same : List ScanResult → List ScanResult → Prop) :
    PipelineVerdict → PipelineVerdict → Prop
  | finished {results₁ results₂} (results : same results₁ results₂) :
      Alike same (.finished results₁) (.finished results₂)
  | unmet (stage missing) {results₁ results₂} (results : same results₁ results₂) :
      Alike same (.stopped (.dependencyNotMet stage missing) results₁)
        (.stopped (.dependencyNotMet stage missing) results₂)
  | failed (stage cause₁ cause₂) {results₁ results₂} (results : same results₁ results₂) :
      Alike same (.stopped (.stageFailed stage cause₁) results₁) (.stopped (.stageFailed stage cause₂) results₂)
  | crashed (text) : Alike same (.crashed text) (.crashed text)

/-- One stage in two runs. -/
structure Visit.Alike (same : Stage → List ScanResult → List ScanResult → Prop) (v₁ : Visit σ₁) (v₂ : Visit σ₂) :
    Prop where
  index : v₁.index = v₂.index
  stage : v₁.stage = v₂.stage
  run : v₁.run.verdict.Alike (same v₁.stage) v₂.run.verdict

lemma StageVerdict.Alike.goesOn {same : List ScanResult → List ScanResult → Prop} {s₁ : StageRun σ₁}
    {s₂ : StageRun σ₂} (h : s₁.verdict.Alike same s₂.verdict) (p : Pipeline) : p.goesOn s₁ = p.goesOn s₂ := by
  unfold Pipeline.goesOn
  generalize s₁.verdict = d₁ at h ⊢
  generalize s₂.verdict = d₂ at h ⊢
  cases h with
  | crashed text => rfl
  | @ended found₁ found₂ error₁ error₂ results errors =>
    cases error₁ <;> cases error₂ <;> simp_all

lemma StageVerdict.Alike.found {same : List ScanResult → List ScanResult → Prop} {s₁ : StageRun σ₁}
    {s₂ : StageRun σ₂} (h : s₁.verdict.Alike same s₂.verdict) {p : Pipeline} (goes : p.goesOn s₁ = true) :
    same s₁.found s₂.found := by
  unfold Pipeline.goesOn at goes
  unfold StageRun.found
  generalize s₁.verdict = d₁ at h goes ⊢
  generalize s₂.verdict = d₂ at h ⊢
  cases h with
  | crashed text => cases goes
  | ended results errors => exact results

lemma StageVerdict.alike_of_timeless {same : List ScanResult → List ScanResult → Prop} {d₁ d₂ : StageVerdict}
    (timeless : ∀ found₁ found₂ : List ScanResult,
      found₁.map ScanResult.timeless = found₂.map ScanResult.timeless → same found₁ found₂)
    (h : d₁.timeless = d₂.timeless) : d₁.Alike same d₂ := by
  cases d₁ with
  | ended found₁ error₁ =>
    cases d₂ with
    | ended found₂ error₂ =>
      obtain ⟨hf,rfl⟩ := ended.inj h
      exact .ended (timeless found₁ found₂ hf) Iff.rfl
    | crashed text => cases h
  | crashed text =>
    cases d₂ with
    | ended found error => cases h
    | crashed other =>
      cases h
      exact .crashed _

/-- A run shows what its stages show and hands out what they find. -/
structure PipelineRun.Shows (run : PipelineRun σ) (visits : List (Visit σ)) : Prop where
  events : run.events = visits.flatMap (·.run.events)
  results : ∀ results, run.verdict.results? = some results → results = visits.flatMap (·.run.found)

namespace Engine

lemma runPipeline_shows (e : Engine σ) (policy : StageTimeout) (p : Pipeline) (now : Nat) (memory : σ) :
    (e.runPipeline policy p now memory).Shows (e.visited policy p now memory) :=
  ⟨e.events_runPipeline policy p now memory,fun _ h => e.results_of_run policy p now memory h⟩

/-- Where no verification crashes, every run hands out what it found. -/
theorem results_of_verifiesSafely {e : Engine σ} (safe : e.registry.VerifiesSafely) (policy : StageTimeout)
    (p : Pipeline) (now : Nat) (memory : σ) : (e.runPipeline policy p now memory).verdict.results? =
      some (accumulated (e.visited policy p now memory)) := by
  cases hc : p.check with
  | ok => exact e.results_of_safe policy p now memory safe hc
  | error error =>
    rw [e.runPipeline_of_refused policy p now memory hc,e.visited_of_refused policy p now memory hc]
    rfl

lemma ne_crashed_of_safe {e : Engine σ} (safe : e.registry.VerifiesSafely) (policy : StageTimeout)
    (p : Pipeline) (now : Nat) (memory : σ) (text : String) :
    (e.runPipeline policy p now memory).verdict ≠ .crashed text := by
  intro hv
  have hr := results_of_verifiesSafely safe policy p now memory
  rw [hv] at hr
  cases hr

section Lockstep

variable {e₁ : Engine σ₁} {e₂ : Engine σ₂} (p : Pipeline) (timeout : Duration)
  {total : List ScanResult → List ScanResult → Prop} {same : Stage → List ScanResult → List ScanResult → Prop}
  (extend : ∀ stage {before₁ before₂ found₁ found₂}, total before₁ before₂ → same stage found₁ found₂ →
    total (before₁ ++ found₁) (before₂ ++ found₂))
  (missing : ∀ dependsOn {results₁ results₂}, total results₁ results₂ →
    missingDependencies dependsOn results₁ = missingDependencies dependsOn results₂)

include extend missing

/-- Two runs stay in step if each stage that both start with `total` results comes to the `same`. -/
theorem runStages_alike (stages : List Stage) (index : Nat) {results₁ results₂ : List ScanResult}
    (now₁ now₂ : Nat) (memory₁ : σ₁) (memory₂ : σ₂) (start : total results₁ results₂)
    (step : ∀ (k : Nat) (v₁ : Visit σ₁) (v₂ : Visit σ₂),
      (e₁.visits p timeout stages index results₁ now₁ memory₁)[k]? = some v₁ →
      (e₂.visits p timeout stages index results₂ now₂ memory₂)[k]? = some v₂ → v₁.stage = v₂.stage →
      total v₁.previous v₂.previous → v₁.run.verdict.Alike (same v₁.stage) v₂.run.verdict) :
    List.Forall₂ (Visit.Alike same) (e₁.visits p timeout stages index results₁ now₁ memory₁)
      (e₂.visits p timeout stages index results₂ now₂ memory₂) ∧
    (e₁.runStages p timeout stages index results₁ now₁ memory₁).verdict.Alike total
      (e₂.runStages p timeout stages index results₂ now₂ memory₂).verdict := by
  induction stages generalizing index results₁ results₂ now₁ now₂ memory₁ memory₂ with
  | nil => exact ⟨.nil,.finished start⟩
  | cons stage stages ih =>
    -- the same dependencies are missing in both runs, so both take one branch
    have hm := missing stage.dependsOn start
    by_cases met₁ : missingDependencies stage.dependsOn results₁ = []
    · have met₂ := hm ▸ met₁
      obtain ⟨s₁,ran₁⟩ : ∃ s, s = e₁.runStage p timeout index stage results₁ now₁ memory₁ := ⟨_,rfl⟩
      obtain ⟨s₂,ran₂⟩ : ∃ s, s = e₂.runStage p timeout index stage results₂ now₂ memory₂ := ⟨_,rfl⟩
      have alike : s₁.verdict.Alike (same stage) s₂.verdict :=
        step 0 ⟨index,stage,results₁,now₁,memory₁,s₁⟩ ⟨index,stage,results₂,now₂,memory₂,s₂⟩
          (by simp [visits,met₁,ran₁]) (by simp [visits,met₂,ran₂]) rfl start
      have hg := alike.goesOn p
      cases goes : p.goesOn s₁ with
      | true =>
        obtain ⟨hv₁,hr₁,_⟩ := e₁.step_next p timeout met₁ ran₁ goes
        obtain ⟨hv₂,hr₂,_⟩ := e₂.step_next p timeout met₂ ran₂ (hg ▸ goes)
        -- from here on the visits of the rest stand one place further
        rw [hv₁,hv₂] at step ⊢
        rw [hr₁,hr₂]
        obtain ⟨hv,hr⟩ := ih _ _ _ _ _ (extend stage start (alike.found goes)) fun k => step (k + 1)
        exact ⟨.cons ⟨rfl,rfl,alike⟩ hv,hr⟩
      | false =>
        obtain ⟨hv₁,_,last₁⟩ := e₁.step_last p timeout met₁ ran₁ goes
        obtain ⟨hv₂,_,last₂⟩ := e₂.step_last p timeout met₂ ran₂ (hg ▸ goes)
        rw [hv₁,hv₂]
        refine ⟨.cons ⟨rfl,rfl,alike⟩ .nil,?_⟩
        obtain ⟨text,hs₁,hr₁⟩ | ⟨error₁,hs₁,_,hr₁⟩ := last₁
        · obtain ⟨text,hs₂,hr₂⟩ | ⟨error₂,hs₂,_,_⟩ := last₂
          · rw [hs₁,hs₂] at alike
            cases alike
            rw [hr₁,hr₂]
            exact .crashed _
          · rw [hs₁,hs₂] at alike
            cases alike
        · obtain ⟨text,hs₂,_⟩ | ⟨error₂,hs₂,_,hr₂⟩ := last₂
          · rw [hs₁,hs₂] at alike
            cases alike
          · rw [hs₁,hs₂] at alike
            cases alike with
            | ended found errors =>
              rw [hr₁,hr₂]
              exact .failed _ _ _ (extend stage start found)
    · obtain ⟨hv₁,hr₁⟩ := e₁.step_unmet p timeout met₁
      obtain ⟨hv₂,hr₂⟩ := e₂.step_unmet p timeout (hm ▸ met₁)
      rw [hv₁,hv₂,hr₁,hr₂,hm]
      exact ⟨.nil,.unmet _ _ start⟩

lemma runPipeline_alike (start : total [] []) (policy : StageTimeout) (now₁ now₂ : Nat) (memory₁ : σ₁)
    (memory₂ : σ₂)
    (step : ∀ (k : Nat) (v₁ : Visit σ₁) (v₂ : Visit σ₂), (e₁.visited policy p now₁ memory₁)[k]? = some v₁ →
      (e₂.visited policy p now₂ memory₂)[k]? = some v₂ → v₁.stage = v₂.stage →
      total v₁.previous v₂.previous → v₁.run.verdict.Alike (same v₁.stage) v₂.run.verdict) :
    List.Forall₂ (Visit.Alike same) (e₁.visited policy p now₁ memory₁) (e₂.visited policy p now₂ memory₂) ∧
    (e₁.runPipeline policy p now₁ memory₁).verdict.Alike total
      (e₂.runPipeline policy p now₂ memory₂).verdict := by
  unfold visited at step ⊢
  unfold runPipeline
  cases hc : p.check with
  | error error =>
    obtain ⟨_,stage,_,_,rfl,_⟩ := Pipeline.first_unscheduled_of_check hc
    exact ⟨.nil,.unmet _ _ start⟩
  | ok =>
    simp only [hc] at step
    exact e₁.runStages_alike p (policy.resolve p) extend missing p.stages 0 now₁ now₂ memory₁ memory₂ start step

end Lockstep

section Order

/-- The same results but for their times and their order. -/
def Reordered (results₁ results₂ : List ScanResult) : Prop :=
  (results₁.map ScanResult.timeless).Perm (results₂.map ScanResult.timeless)

/-- The same results but for their times and, where all scanners run at once, their order. -/
def FoundAlike (stage : Stage) (found₁ found₂ : List ScanResult) : Prop :=
  if stage.parallel then Reordered found₁ found₂
  else found₁.map ScanResult.timeless = found₂.map ScanResult.timeless

lemma FoundAlike.reordered {stage : Stage} {found₁ found₂ : List ScanResult}
    (h : FoundAlike stage found₁ found₂) : Reordered found₁ found₂ := by
  unfold FoundAlike at h
  split at h
  · exact h
  · exact .of_eq h

lemma Reordered.append {results₁ results₂ found₁ found₂ : List ScanResult} (hr : Reordered results₁ results₂)
    (hf : Reordered found₁ found₂) : Reordered (results₁ ++ found₁) (results₂ ++ found₂) := by
  unfold Reordered
  rw [List.map_append,List.map_append]
  exact List.Perm.append hr hf

lemma Reordered.completed_iff {results₁ results₂ : List ScanResult} (h : Reordered results₁ results₂)
    (name : String) : Completed results₁ name ↔ Completed results₂ name := by
  have timeless (results : List ScanResult) :
      Completed results name ↔ Completed (results.map ScanResult.timeless) name := by
    simp [Completed]
  rw [timeless,timeless results₂]
  exact exists_congr fun x => and_congr_left' h.mem_iff

lemma Reordered.missingDependencies_eq {results₁ results₂ : List ScanResult} (h : Reordered results₁ results₂)
    (dependsOn : List String) :
    missingDependencies dependsOn results₁ = missingDependencies dependsOn results₂ := by
  simp only [Recon.missingDependencies_eq,h.completed_iff]

variable {e₁ : Engine σ₁} {e₂ : Engine σ₂} {outcome : String → ScanConfig → Ending}
  (registry : e₁.registry = e₂.registry) (predictable₁ : e₁.Predictable ScanConfig.alone outcome)
  (predictable₂ : e₂.Predictable ScanConfig.alone outcome)

include registry predictable₁ predictable₂

lemma runStage_alike (p : Pipeline) (timeout : Duration) (index : Nat) (stage : Stage)
    (previous₁ previous₂ : List ScanResult) (now₁ now₂ : Nat) (memory₁ : σ₁) (memory₂ : σ₂) :
    (e₁.runStage p timeout index stage previous₁ now₁ memory₁).verdict.Alike (FoundAlike stage)
      (e₂.runStage p timeout index stage previous₂ now₂ memory₂).verdict := by
  have fixed (name : String) (parents₁ parents₂ : List ScanResult) :
      e₁.registry.forecast ScanConfig.alone outcome (p.configFor timeout stage name parents₁) =
        e₂.registry.forecast ScanConfig.alone outcome (p.configFor timeout stage name parents₂) := by
    rw [registry]
    exact Registry.forecast_configFor_congr rfl
  cases hm : stage.parallel with
  | true =>
    rw [e₁.runStage_of_parallel _ _ _ _ _ _ _ hm,e₂.runStage_of_parallel _ _ _ _ _ _ _ hm]
    rw [runParallel_verdict,runParallel_verdict]
    refine .ended ?_ ?_
    · have perm₁ := predictable₁.perm_found_arrived index stage.name
        (fun name => p.configFor timeout stage name previous₁) stage.scanners now₁ memory₁
      have perm₂ := predictable₂.perm_found_arrived index stage.name
        (fun name => p.configFor timeout stage name previous₂) stage.scanners now₂ memory₂
      simp only [fixed _ previous₁ previous₂] at perm₁
      simp only [FoundAlike,hm,if_true]
      exact perm₁.trans perm₂.symm
    · rw [predictable₁.error_arrived_eq_none_iff,predictable₂.error_arrived_eq_none_iff]
      simp only [fixed _ previous₁ previous₂]
  | false =>
    rw [e₁.runStage_of_serial _ _ _ _ _ _ _ hm,e₂.runStage_of_serial _ _ _ _ _ _ _ hm]
    apply StageVerdict.alike_of_timeless fun found₁ found₂ h => ?_
    · rw [predictable₁.verdict_runSerial (fun _ => rfl),predictable₂.verdict_runSerial (fun _ => rfl),registry]
      apply Registry.forecastSerial_congr
      intro name done
      have hf := fixed name (previous₁.map ScanResult.timeless ++ done)
        (previous₂.map ScanResult.timeless ++ done)
      rwa [registry] at hf
    · simpa only [FoundAlike,hm,Bool.false_eq_true,if_false] using h

/-- Where no scan hangs on the results of others, the order in which the tasks of parallel stages arrive
changes neither which stages a run goes through nor how it ends, and of the results of a parallel stage
nothing but their order and their times: it decides no more than which error a failed stage names. -/
theorem arrival_immaterial (policy : StageTimeout) (p : Pipeline) (now₁ now₂ : Nat) (memory₁ : σ₁)
    (memory₂ : σ₂) :
    (e₁.runPipeline policy p now₁ memory₁).Shows (e₁.visited policy p now₁ memory₁) ∧
    (e₂.runPipeline policy p now₂ memory₂).Shows (e₂.visited policy p now₂ memory₂) ∧
    List.Forall₂ (Visit.Alike FoundAlike) (e₁.visited policy p now₁ memory₁)
      (e₂.visited policy p now₂ memory₂) ∧
    (e₁.runPipeline policy p now₁ memory₁).verdict.Alike Reordered
      (e₂.runPipeline policy p now₂ memory₂).verdict ∧
    (e₁.registry.VerifiesSafely → ∀ text, (e₁.runPipeline policy p now₁ memory₁).verdict ≠ .crashed text ∧
      (e₂.runPipeline policy p now₂ memory₂).verdict ≠ .crashed text) := by
  refine ⟨e₁.runPipeline_shows policy p now₁ memory₁,e₂.runPipeline_shows policy p now₂ memory₂,?_⟩
  rw [← and_assoc]
  refine ⟨?_,fun safe text => 
    ⟨ne_crashed_of_safe safe policy p now₁ memory₁ text,
      ne_crashed_of_safe (registry ▸ safe) policy p now₂ memory₂ text⟩⟩
  apply runPipeline_alike p (fun _ _ _ _ _ hr hf => hr.append hf.reordered)
    (fun dependsOn _ _ h => h.missingDependencies_eq dependsOn) (.refl [])
  -- what was found before a stage counts for its dependencies only, not for how it is run
  intro k v₁ v₂ hv₁ hv₂ hs _
  rw [(e₁.visited_at policy p now₁ memory₁ hv₁).2.1,(e₂.visited_at policy p now₂ memory₂ hv₂).2.1,← hs]
  exact runStage_alike registry predictable₁ predictable₂ ..

end Order

/-- A parallel stage with a scanner that fails, one that completes and one that is not known. -/
def scattered : Pipeline where
  name := "audit"
  projectId := 1
  target := "example.com"
  stages := [{ name := "names", scanners := ["dns"] },
    { name := "owners", scanners := ["whois","dns","nmap"], parallel := true, dependsOn := ["dns"] }]

theorem arrival_immaterial_scattered :
    halfFailing.registry = inTurn.registry ∧ halfFailing.Predictable ScanConfig.alone halfFailingOutcome ∧
    inTurn.Predictable ScanConfig.alone halfFailingOutcome ∧
    ∃ results₁ results₂,
      (halfFailing.runPipeline .ofPipeline scattered 0 ()).verdict =
        .stopped (.stageFailed "owners" (.scannerNotFound "nmap")) results₁ ∧
      (inTurn.runPipeline .ofPipeline scattered 5 ()).verdict =
        .stopped (.stageFailed "owners" (.scanFailed "whois" "refused")) results₂ ∧
      results₁.map (·.scanner) = ["dns","dns","whois"] ∧ results₂.map (·.scanner) = ["dns","whois","dns"] ∧
      Reordered results₁ results₂ := by
  have registry : halfFailing.registry = inTurn.registry := rfl
  have predictable₁ := predictable_halfFailing ScanConfig.alone halfFailing.arrival
  have predictable₂ := predictable_halfFailing ScanConfig.alone inTurn.arrival
  obtain ⟨_,_,_,alike,_⟩ := arrival_immaterial registry predictable₁ predictable₂ .ofPipeline scattered 0 5 () ()
  obtain ⟨results₁,hv₁,hs₁⟩ : ∃ results, (halfFailing.runPipeline .ofPipeline scattered 0 ()).verdict =
      .stopped (.stageFailed "owners" (.scannerNotFound "nmap")) results ∧
      results.map (·.scanner) = ["dns","dns","whois"] := ⟨_,rfl,rfl⟩
  obtain ⟨results₂,hv₂,hs₂⟩ : ∃ results, (inTurn.runPipeline .ofPipeline scattered 5 ()).verdict =
      .stopped (.stageFailed "owners" (.scanFailed "whois" "refused")) results ∧
      results.map (·.scanner) = ["dns","whois","dns"] := ⟨_,rfl,rfl⟩
  rw [hv₁,hv₂] at alike
  cases alike with
  | failed stage cause₁ cause₂ reordered =>
    exact ⟨registry,predictable₁,predictable₂,results₁,results₂,hv₁,hv₂,hs₁,hs₂,reordered⟩

end Engine
end Recon
