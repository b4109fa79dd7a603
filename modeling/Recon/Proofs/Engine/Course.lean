import Recon.Engine.Run
import Recon.Proofs.Engine.Stage

/-! The course of a pipeline: the stages that were started, each with what it began with and what came of
it. A run is its course; the verdict follows from the last stage of it. -/
namespace Recon

variable {σ : Type}

/-- A stage that was started. -/
structure Visit (σ : Type) where
  index : Nat
  stage : Stage
  previous : List ScanResult
  start : Nat
  memory : σ
  run : StageRun σ

/-- The results of a list of stages, in their order. -/
def accumulated (visits : List (Visit σ)) : List ScanResult := visits.flatMap (·.run.found)

@[simp] lemma accumulated_nil : accumulated ([] : List (Visit σ)) = [] := rfl

@[simp] lemma accumulated_cons (v : Visit σ) (visits : List (Visit σ)) :
    accumulated (v :: visits) = v.run.found ++ accumulated visits := rfl

@[simp] lemma accumulated_append (before after : List (Visit σ)) :
    accumulated (before ++ after) = accumulated before ++ accumulated after := by
  simp [accumulated]

/-- What was found up to a stage stands in front of all that is found. -/
theorem accumulated_take_prefix {visits : List (Visit σ)} {k : Nat} {v : Visit σ} (hv : visits[k]? = some v) :
    accumulated (visits.take k) ++ v.run.found <+: accumulated visits := by
  obtain ⟨hk,rfl⟩ := List.getElem?_eq_some_iff.mp hv
  refine ⟨accumulated (visits.drop (k + 1)),?_⟩
  calc accumulated (visits.take k) ++ visits[k].run.found ++ accumulated (visits.drop (k + 1))
      = accumulated (visits.take k ++ visits[k] :: visits.drop (k + 1)) := by
        simp only [accumulated_append,accumulated_cons,List.append_assoc]
    _ = accumulated visits := by rw [← List.drop_eq_getElem_cons hk,List.take_append_drop]

/-- A scanner of that name has completed. -/
def Completed (results : List ScanResult) (name : String) : Prop :=
  ∃ x ∈ results, x.status = .completed ∧ x.scanner = name

instance (results : List ScanResult) (name : String) : Decidable (Completed results name) :=
  inferInstanceAs (Decidable (∃ x ∈ results, x.status = .completed ∧ x.scanner = name))

lemma missingDependencies_eq (dependsOn : List String) (results : List ScanResult) :
    missingDependencies dependsOn results = dependsOn.filter fun name => ¬ Completed results name := by
  unfold missingDependencies
  apply List.filter_congr
  intro name _
  rw [Bool.eq_iff_iff]
  simp [Completed,ScanResult.isCompleted]

lemma missingDependencies_eq_nil_iff {dependsOn : List String} {results : List ScanResult} :
    missingDependencies dependsOn results = [] ↔ ∀ name ∈ dependsOn, Completed results name := by
  rw [missingDependencies_eq]
  simp

/-- Whether the stages after this one get their turn. -/
def Pipeline.goesOn (p : Pipeline) (s : StageRun σ) : Bool :=
  match s.verdict with
  | .ended _ error => error.isNone || p.continueOnError
  | .crashed _ => false

/-- The results that a run hands out, if it comes to its end. -/
def PipelineVerdict.results? : PipelineVerdict → Option (List ScanResult)
  | .finished results | .stopped _ results => some results
  | .crashed _ => none

namespace Engine

/-- The stages that are started when a run has come to `index` with `results`. -/
def visits (e : Engine σ) (p : Pipeline) (timeout : Duration) :
    List Stage → Nat → List ScanResult → Nat → σ → List (Visit σ)
  | [],_,_,_,_ => []
  | stage :: stages,index,results,now,memory =>
    if (missingDependencies stage.dependsOn results).isEmpty then
      let s := e.runStage p timeout index stage results now memory
      ⟨index,stage,results,now,memory,s⟩ ::
        if p.goesOn s then e.visits p timeout stages (index + 1) (results ++ s.found) s.finish s.memory else []
    else []

/-- An engine in the still world. The last of several tasks arrives first. -/
def still (r : Registry) : Engine Unit where
  registry := r
  world := .still
  arrival := ⟨fun _ attempts => attempts.reverse,fun _ attempts => attempts.reverse_perm⟩

/-- Two scanners, one of which fails. -/
def halfFailing : Engine Unit := still
  { scanners := [.doing "whois" .subdomain (.fail (.scanFailed "whois" "refused")),
      .doing "dns" .subdomain (.finish (.subdomains []))]
    nodup := by decide
    named := by decide }

/-- The stages that a run of a pipeline starts. -/
def visited (e : Engine σ) (policy : StageTimeout) (p : Pipeline) (now : Nat) (memory : σ) : List (Visit σ) :=
  match p.check with
  | .error _ => []
  | .ok () => e.visits p (policy.resolve p) p.stages 0 [] now memory

/-- A run comes to its stage `k`: the ones before it were started and left the turn to the next. -/
def Reaches (e : Engine σ) (policy : StageTimeout) (p : Pipeline) (now : Nat) (memory : σ) (k : Nat) : Prop :=
  p.check = .ok () ∧ k ≤ (e.visited policy p now memory).length ∧
    ∀ v ∈ (e.visited policy p now memory).take k, p.goesOn v.run = true

/-- The ways from stage to stage, with the verdict at their end. -/
inductive Course (e : Engine σ) (p : Pipeline) (timeout : Duration) :
    List Stage → Nat → List ScanResult → Nat → σ → List (Visit σ) → PipelineVerdict → Prop
  | finished (index results now memory) :
      Course e p timeout [] index results now memory [] (.finished results)
  | unmet {stage stages} (index) {results} (now memory)
      (missing : missingDependencies stage.dependsOn results ≠ []) :
      Course e p timeout (stage :: stages) index results now memory []
        (.stopped (.dependencyNotMet stage.name (missingDependencies stage.dependsOn results)) results)
  | crashed {stage stages index results now memory s text}
      (met : missingDependencies stage.dependsOn results = [])
      (ran : s = e.runStage p timeout index stage results now memory) (ended : s.verdict = .crashed text) :
      Course e p timeout (stage :: stages) index results now memory
        [⟨index,stage,results,now,memory,s⟩] (.crashed text)
  | stopped {stage stages index results now memory s found error}
      (met : missingDependencies stage.dependsOn results = [])
      (ran : s = e.runStage p timeout index stage results now memory)
      (ended : s.verdict = .ended found (some error)) (stops : p.continueOnError = false) :
      Course e p timeout (stage :: stages) index results now memory
        [⟨index,stage,results,now,memory,s⟩]
        (.stopped (.stageFailed stage.name error) (results ++ s.found))
  | next {stage stages index results now memory s visits verdict}
      (met : missingDependencies stage.dependsOn results = [])
      (ran : s = e.runStage p timeout index stage results now memory) (goes : p.goesOn s = true)
      (rest : Course e p timeout stages (index + 1) (results ++ s.found) s.finish s.memory visits verdict) :
      Course e p timeout (stage :: stages) index results now memory
        (⟨index,stage,results,now,memory,s⟩ :: visits) verdict

section Runs

variable (e : Engine σ) (p : Pipeline) (timeout : Duration)

section Step

variable {stage : Stage} {stages : List Stage} {index : Nat} {results : List ScanResult} {now : Nat}
  {memory : σ} {s : StageRun σ}

/-- A stage whose dependencies are not met is not started, nor is any after it. -/
theorem step_unmet (missing : missingDependencies stage.dependsOn results ≠ []) :
    e.visits p timeout (stage :: stages) index results now memory = [] ∧
      e.runStages p timeout (stage :: stages) index results now memory =
        ⟨.stopped (.dependencyNotMet stage.name (missingDependencies stage.dependsOn results)) results,
          [],[],now,memory⟩ := by
  have hm : (missingDependencies stage.dependsOn results).isEmpty = false := by simpa using missing
  rw [runStages]
  simp [visits,hm]

/-- A stage that leaves the turn to the next. -/
theorem step_next (met : missingDependencies stage.dependsOn results = [])
    (ran : s = e.runStage p timeout index stage results now memory) (goes : p.goesOn s = true) :
    e.visits p timeout (stage :: stages) index results now memory =
      ⟨index,stage,results,now,memory,s⟩ ::
        e.visits p timeout stages (index + 1) (results ++ s.found) s.finish s.memory ∧
    (e.runStages p timeout (stage :: stages) index results now memory).verdict =
      (e.runStages p timeout stages (index + 1) (results ++ s.found) s.finish s.memory).verdict ∧
    (e.runStages p timeout (stage :: stages) index results now memory).events = s.events ++
      (e.runStages p timeout stages (index + 1) (results ++ s.found) s.finish s.memory).events := by
  subst ran
  refine ⟨by simp [visits,met,goes],?_⟩
  unfold Pipeline.goesOn at goes
  rw [runStages]
  cases hv : (e.runStage p timeout index stage results now memory).verdict with
  | crashed text => simp [hv] at goes
  | ended found error =>
    have hf := StageRun.found_of_ended hv
    cases error with
    | none => simp only [met,hv,hf]; exact ⟨rfl,rfl⟩
    | some error =>
      have hc : p.continueOnError = true := by simpa [hv] using goes
      simp only [met,hv,hf,hc]
      exact ⟨rfl,rfl⟩

/-- A stage that ends the run. -/
theorem step_last (met : missingDependencies stage.dependsOn results = [])
    (ran : s = e.runStage p timeout index stage results now memory) (goes : p.goesOn s = false) :
    e.visits p timeout (stage :: stages) index results now memory = [⟨index,stage,results,now,memory,s⟩] ∧
    (e.runStages p timeout (stage :: stages) index results now memory).events = s.events ∧
    ((∃ text, s.verdict = .crashed text ∧
        (e.runStages p timeout (stage :: stages) index results now memory).verdict = .crashed text) ∨
      ∃ error, s.verdict = .ended s.found (some error) ∧ p.continueOnError = false ∧
        (e.runStages p timeout (stage :: stages) index results now memory).verdict =
          .stopped (.stageFailed stage.name error) (results ++ s.found)) := by
  refine ⟨by simp [visits,met,← ran,goes],?_⟩
  unfold Pipeline.goesOn at goes
  rw [runStages]
  simp only [met,← ran]
  cases hv : s.verdict with
  | crashed text => exact ⟨rfl,Or.inl ⟨text,rfl,rfl⟩⟩
  | ended found error =>
    simp only [hv,Bool.or_eq_false_iff] at goes
    obtain ⟨hn,hc⟩ := goes
    cases error with
    | none => cases hn
    | some error =>
      rw [StageRun.found_of_ended hv]
      simp [hc]

end Step

lemma runStages_course (stages : List Stage) (index : Nat) (results : List ScanResult) (now : Nat)
    (memory : σ) : e.Course p timeout stages index results now memory
      (e.visits p timeout stages index results now memory)
      (e.runStages p timeout stages index results now memory).verdict := by
  induction stages generalizing index results now memory with
  | nil => exact .finished index results now memory
  | cons stage stages ih =>
    by_cases met : missingDependencies stage.dependsOn results = []
    · obtain ⟨s,ran⟩ : ∃ s, s = e.runStage p timeout index stage results now memory := ⟨_,rfl⟩
      cases goes : p.goesOn s with
      | true =>
        obtain ⟨hv,hr,_⟩ := e.step_next p timeout met ran goes
        rw [hv,hr]
        exact .next met ran goes (ih ..)
      | false =>
        obtain ⟨hv,_,⟨text,hs,hr⟩ | ⟨error,hs,hc,hr⟩⟩ := e.step_last p timeout met ran goes
        · rw [hv,hr]
          exact .crashed met ran hs
        · rw [hv,hr]
          exact .stopped met ran hs hc
    · obtain ⟨hv,hr⟩ := e.step_unmet p timeout met
      rw [hv,hr]
      exact .unmet index now memory met

/-- Everything that a run shows is shown by one of its stages. -/
theorem events_runStages (stages : List Stage) (index : Nat) (results : List ScanResult) (now : Nat)
    (memory : σ) : (e.runStages p timeout stages index results now memory).events =
      (e.visits p timeout stages index results now memory).flatMap (·.run.events) := by
  induction stages generalizing index results now memory with
  | nil => rfl
  | cons stage stages ih =>
    by_cases met : missingDependencies stage.dependsOn results = []
    · obtain ⟨s,ran⟩ : ∃ s, s = e.runStage p timeout index stage results now memory := ⟨_,rfl⟩
      cases goes : p.goesOn s with
      | true =>
        obtain ⟨hv,_,he⟩ := e.step_next p timeout met ran goes
        rw [hv,he,ih]
        rfl
      | false =>
        obtain ⟨hv,he,_⟩ := e.step_last p timeout met ran goes
        rw [hv,he]
        exact (List.append_nil _).symm
    · obtain ⟨hv,hr⟩ := e.step_unmet p timeout met
      rw [hv,hr]
      rfl

end Runs

namespace Course

variable {e : Engine σ} {p : Pipeline} {timeout : Duration} {stages : List Stage} {index : Nat}
  {results : List ScanResult} {now : Nat} {memory : σ} {visits : List (Visit σ)} {verdict : PipelineVerdict}

/-- The stages are started in their order, each with all that was found before and its dependencies met. -/
theorem visit (h : e.Course p timeout stages index results now memory visits verdict) {k : Nat} {v : Visit σ}
    (hv : visits[k]? = some v) :
    stages[k]? = some v.stage ∧ v.index = index + k ∧
      v.run = e.runStage p timeout (index + k) v.stage v.previous v.start v.memory ∧
      v.previous = results ++ accumulated (visits.take k) ∧
      missingDependencies v.stage.dependsOn v.previous = [] := by
  induction h generalizing k with
  | finished => simp at hv
  | unmet => simp at hv
  | crashed met ran ended | stopped met ran ended stops =>
    cases k with
    | zero =>
      cases hv
      exact ⟨rfl,rfl,ran,by simp,met⟩
    | succ k => simp at hv
  | next met ran goes rest ih =>
    cases k with
    | zero =>
      cases hv
      exact ⟨rfl,rfl,ran,by simp,met⟩
    | succ k =>
      obtain ⟨hs,hi,hr,hp,hm⟩ := ih hv
      rw [show ∀ i,i + 1 + k = i + (k + 1) by omega] at hi hr
      exact ⟨by simpa using hs,hi,hr,by simpa using hp,hm⟩

/-- How a run ends. -/
theorem ending (h : e.Course p timeout stages index results now memory visits verdict) :
    (verdict = .finished (results ++ accumulated visits) ∧ visits.length = stages.length ∧
      ∀ v ∈ visits, p.goesOn v.run = true) ∨
    (∃ stage, stages[visits.length]? = some stage ∧
      missingDependencies stage.dependsOn (results ++ accumulated visits) ≠ [] ∧
      verdict = .stopped (.dependencyNotMet stage.name
        (missingDependencies stage.dependsOn (results ++ accumulated visits))) (results ++ accumulated visits) ∧
      ∀ v ∈ visits, p.goesOn v.run = true) ∨
    ∃ before v, visits = before ++ [v] ∧ (∀ u ∈ before, p.goesOn u.run = true) ∧ p.goesOn v.run = false ∧
      ((∃ found error, v.run.verdict = .ended found (some error) ∧ p.continueOnError = false ∧
          verdict = .stopped (.stageFailed v.stage.name error) (results ++ accumulated visits)) ∨
        ∃ text, v.run.verdict = .crashed text ∧ verdict = .crashed text) := by
  induction h with
  | finished => exact Or.inl ⟨by simp,rfl,by simp⟩
  | unmet index now memory missing =>
    exact Or.inr (Or.inl ⟨_,rfl,by simpa using missing,by simp,by simp⟩)
  | crashed met ran ended =>
    exact Or.inr (Or.inr ⟨[],_,rfl,by simp,by simp [Pipeline.goesOn,ended],Or.inr ⟨_,ended,rfl⟩⟩)
  | stopped met ran ended stops =>
    exact Or.inr (Or.inr ⟨[],_,rfl,by simp,by simp [Pipeline.goesOn,ended,stops],
      Or.inl ⟨_,_,ended,stops,by simp⟩⟩)
  | next met ran goes rest ih =>
    rw [accumulated_cons,← List.append_assoc]
    obtain ⟨hf,hl,hg⟩ | ⟨stage,hs,hm,hv,hg⟩ | ⟨before,v,rfl,hb,hg,hv⟩ := ih
    · exact Or.inl ⟨hf,by simp [hl],by simpa [goes] using hg⟩
    · exact Or.inr (Or.inl ⟨stage,by simpa using hs,hm,hv,by simpa [goes] using hg⟩)
    · exact Or.inr (Or.inr ⟨_ :: before,v,rfl,by simpa [goes] using hb,hg,hv⟩)

/-- Only the last stage can end a run. -/
theorem goesOn_of_mem_dropLast (h : e.Course p timeout stages index results now memory visits verdict)
    {v : Visit σ} (hv : v ∈ visits.dropLast) : p.goesOn v.run = true := by
  obtain ⟨_,_,hg⟩ | ⟨_,_,_,_,hg⟩ | ⟨before,_,hb,hg,_⟩ := h.ending
  · exact hg v (List.dropLast_subset _ hv)
  · exact hg v (List.dropLast_subset _ hv)
  · rw [hb,List.dropLast_concat] at hv
    exact hg v hv

lemma results_eq (h : e.Course p timeout stages index results now memory visits verdict)
    {handed : List ScanResult} (hr : verdict.results? = some handed) : handed = results ++ accumulated visits := by
  obtain ⟨rfl,_⟩ | ⟨_,_,_,rfl,_⟩ | ⟨_,_,_,_,_,⟨_,_,_,_,rfl⟩ | ⟨_,_,rfl⟩⟩ := h.ending
  · exact (Option.some.inj hr).symm
  · exact (Option.some.inj hr).symm
  · exact (Option.some.inj hr).symm
  · cases hr

end Course

section Pipeline

variable (e : Engine σ) (policy : StageTimeout) (p : Pipeline) (now : Nat) (memory : σ)

lemma visited_course (h : p.check = .ok ()) : e.Course p (policy.resolve p) p.stages 0 [] now memory
    (e.visited policy p now memory) (e.runPipeline policy p now memory).verdict := by
  unfold visited runPipeline
  simp only [h]
  exact e.runStages_course ..

lemma visited_of_refused {error : ScanError} (h : p.check = .error error) :
    e.visited policy p now memory = [] := by
  simp only [visited,h]

/-- A pipeline that is refused leaves everything as it was. -/
theorem runPipeline_of_refused {error : ScanError} (h : p.check = .error error) :
    e.runPipeline policy p now memory = ⟨.stopped error [],[],[],now,memory⟩ := by
  simp only [runPipeline,h]

/-- The stage started as number `k` is stage `k` of the pipeline, after all that was found before it. -/
theorem visited_at {k : Nat} {v : Visit σ} (hv : (e.visited policy p now memory)[k]? = some v) :
    p.stages[k]? = some v.stage ∧
      v.run = e.runStage p (policy.resolve p) k v.stage v.previous v.start v.memory ∧
      v.previous = accumulated ((e.visited policy p now memory).take k) ∧
      ∀ name ∈ v.stage.dependsOn, Completed v.previous name := by
  cases hc : p.check with
  | error error => simp [e.visited_of_refused policy p now memory hc] at hv
  | ok =>
    obtain ⟨hs,_,hr,hp,hm⟩ := (e.visited_course policy p now memory hc).visit hv
    rw [Nat.zero_add] at hr
    exact ⟨hs,hr,by simpa using hp,missingDependencies_eq_nil_iff.mp hm⟩

variable {e policy p now memory} in
lemma ran_of_mem_visited {v : Visit σ} (hv : v ∈ e.visited policy p now memory) :
    ∃ k, v.run = e.runStage p (policy.resolve p) k v.stage v.previous v.start v.memory := by
  obtain ⟨k,hk⟩ := List.getElem?_of_mem hv
  exact ⟨k,(e.visited_at policy p now memory hk).2.1⟩

/-- Whatever is handed out is all that the stages found. -/
theorem results_of_run {results : List ScanResult}
    (h : (e.runPipeline policy p now memory).verdict.results? = some results) :
    results = accumulated (e.visited policy p now memory) := by
  cases hc : p.check with
  | error error =>
    rw [e.runPipeline_of_refused policy p now memory hc] at h
    rw [e.visited_of_refused policy p now memory hc]
    exact (Option.some.inj h).symm
  | ok => exact (e.visited_course policy p now memory hc).results_eq h

lemma events_runPipeline : (e.runPipeline policy p now memory).events =
    (e.visited policy p now memory).flatMap (·.run.events) := by
  unfold visited runPipeline
  cases p.check with
  | error error => rfl
  | ok => exact e.events_runStages ..

end Pipeline
end Engine
end Recon
