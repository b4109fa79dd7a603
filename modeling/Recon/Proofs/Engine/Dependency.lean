import Recon.Proofs.Engine.Course

/-! Dependencies between stages. A stage starts only after what it depends on has completed; the check
made beforehand refuses the pipelines that could never meet this, and without an error on the way what it
lets pass is always met. -/
namespace Recon

variable {σ : Type}

/-- The scanners of the stages before stage `k`. -/
def scannersBefore (stages : List Stage) (k : Nat) : List String := (stages.take k).flatMap (·.scanners)

@[simp] lemma scannersBefore_zero (stages : List Stage) : scannersBefore stages 0 = [] := by
  simp [scannersBefore]

@[simp] lemma scannersBefore_cons_succ (stage : Stage) (stages : List Stage) (k : Nat) :
    scannersBefore (stage :: stages) (k + 1) = stage.scanners ++ scannersBefore stages k := by
  simp [scannersBefore]

lemma mem_scannersBefore {stages : List Stage} {j k : Nat} {stage : Stage} {name : String} (hj : j < k)
    (hs : stages[j]? = some stage) (hn : name ∈ stage.scanners) : name ∈ scannersBefore stages k := by
  refine List.mem_flatMap.mpr ⟨stage,List.mem_of_getElem? (i := j) ?_,hn⟩
  rw [List.getElem?_take_of_lt hj,hs]

lemma exists_of_mem_scannersBefore {stages : List Stage} {k : Nat} {name : String}
    (h : name ∈ scannersBefore stages k) :
    ∃ j stage, j < k ∧ stages[j]? = some stage ∧ name ∈ stage.scanners := by
  obtain ⟨stage,hs,hn⟩ := List.mem_flatMap.mp h
  obtain ⟨j,hj⟩ := List.getElem?_of_mem hs
  rw [List.getElem?_take] at hj
  split at hj
  · exact ⟨j,stage,by assumption,hj,hn⟩
  · cases hj

/-- The dependencies of stage `k` that no earlier stage names. -/
def unscheduled (scheduled : List String) (stages : List Stage) (k : Nat) (stage : Stage) : List String :=
  stage.dependsOn.filter fun name => name ∉ scheduled ++ scannersBefore stages k

lemma unscheduled_cons_succ (scheduled : List String) (first : Stage) (stages : List Stage) (k : Nat)
    (stage : Stage) : unscheduled scheduled (first :: stages) (k + 1) stage =
      unscheduled (scheduled ++ first.scanners) stages k stage := by
  simp only [unscheduled,scannersBefore_cons_succ,List.append_assoc]

/-- The check finds the first stage with unscheduled dependencies. -/
theorem checkStages_cases (scheduled : List String) (stages : List Stage) :
    (checkStages scheduled stages = .ok () ∧
      ∀ k stage, stages[k]? = some stage → unscheduled scheduled stages k stage = []) ∨
    ∃ k stage, stages[k]? = some stage ∧ unscheduled scheduled stages k stage ≠ [] ∧
      checkStages scheduled stages = .error (.dependencyNotMet stage.name (unscheduled scheduled stages k stage)) ∧
      ∀ j earlier, j < k → stages[j]? = some earlier → unscheduled scheduled stages j earlier = [] := by
  induction stages generalizing scheduled with
  | nil => exact Or.inl ⟨rfl,by simp⟩
  | cons first stages ih =>
    have hm : (first.dependsOn.filter fun name => !scheduled.contains name) =
        unscheduled scheduled (first :: stages) 0 first := by
      simp [unscheduled]
    rw [checkStages,hm]
    by_cases met : unscheduled scheduled (first :: stages) 0 first = []
    · simp only [met,List.isEmpty_nil,if_true]
      obtain ⟨hc,hu⟩ | ⟨k,stage,hs,hu,hc,he⟩ := ih (scheduled ++ first.scanners)
      · refine Or.inl ⟨hc,?_⟩
        intro k stage hs
        cases k with
        | zero => cases hs; exact met
        | succ k => rw [unscheduled_cons_succ]; exact hu k stage hs
      · rw [← unscheduled_cons_succ] at hu hc
        refine Or.inr ⟨k + 1,stage,hs,hu,hc,?_⟩
        intro j earlier hj hs
        cases j with
        | zero => cases hs; exact met
        | succ j => rw [unscheduled_cons_succ]; exact he j earlier (by omega) hs
    · have hn : (unscheduled scheduled (first :: stages) 0 first).isEmpty = false := by simpa using met
      refine Or.inr ⟨0,first,rfl,met,by simp [hn],?_⟩
      intro j earlier hj
      omega

/-- What the check lets pass has each dependency among the scanners of earlier stages. -/
theorem Pipeline.scheduled_of_check {p : Pipeline} (h : p.check = .ok ()) {k : Nat} {stage : Stage}
    (hs : p.stages[k]? = some stage) {name : String} (hn : name ∈ stage.dependsOn) :
    name ∈ scannersBefore p.stages k := by
  obtain ⟨_,hu⟩ | ⟨k,stage,_,_,hc,_⟩ := checkStages_cases [] p.stages
  · have hk := hu k stage hs
    simp only [unscheduled,List.filter_eq_nil_iff,List.nil_append] at hk
    simpa using hk name hn
  · unfold check at h
    rw [hc] at h
    cases h

/-- What the check refuses it refuses for its first stage with a dependency that no earlier stage names. -/
theorem Pipeline.first_unscheduled_of_check {p : Pipeline} {error : ScanError} (h : p.check = .error error) :
    ∃ k stage, p.stages[k]? = some stage ∧
      (∃ name ∈ stage.dependsOn, name ∉ scannersBefore p.stages k) ∧
      error = .dependencyNotMet stage.name
        (stage.dependsOn.filter fun name => name ∉ scannersBefore p.stages k) ∧
      ∀ j earlier, j < k → p.stages[j]? = some earlier →
        ∀ name ∈ earlier.dependsOn, name ∈ scannersBefore p.stages j := by
  unfold check at h
  obtain ⟨hc,_⟩ | ⟨k,stage,hs,hu,hc,he⟩ := checkStages_cases [] p.stages
  · rw [hc] at h
    cases h
  · rw [hc] at h
    cases h
    simp only [unscheduled,List.nil_append] at hu he ⊢
    refine ⟨k,stage,hs,?_,rfl,?_⟩
    · obtain ⟨name,hn⟩ := List.exists_mem_of_ne_nil _ hu
      obtain ⟨hd,hm⟩ := List.mem_filter.mp hn
      exact ⟨name,hd,by simpa using hm⟩
    · intro j earlier hj hs' name hn
      have hf := List.filter_eq_nil_iff.mp (he j earlier hj hs') name hn
      simpa using hf

namespace Engine

namespace Course

variable {e : Engine σ} {p : Pipeline} {timeout : Duration} {stages : List Stage} {now : Nat} {memory : σ}
  {visits : List (Visit σ)} {verdict : PipelineVerdict}

/-- What has completed before stage `k` is named by a stage before it. -/
theorem mem_scannersBefore_of_completed (h : e.Course p timeout stages 0 [] now memory visits verdict)
    {k : Nat} {name : String} (hc : Completed (accumulated (visits.take k)) name) :
    name ∈ scannersBefore stages k := by
  obtain ⟨x,hx,_,rfl⟩ := hc
  obtain ⟨v,hv,hf⟩ := List.mem_flatMap.mp hx
  obtain ⟨j,hj⟩ := List.getElem?_of_mem hv
  rw [List.getElem?_take] at hj
  split at hj
  · obtain ⟨hs,_,hr,_,_⟩ := h.visit hj
    rw [hr] at hf
    exact mem_scannersBefore (by assumption) hs (e.scanner_mem_of_found _ _ _ _ _ _ _ hf)
  · cases hj

/-- Without errors every scanner of the stages before has completed. -/
theorem completed_of_mem_scannersBefore (h : e.Course p timeout stages 0 [] now memory visits verdict)
    (stops : p.continueOnError = false) {k : Nat} (hk : k ≤ visits.length)
    (hg : ∀ v ∈ visits.take k, p.goesOn v.run = true) {name : String} (hn : name ∈ scannersBefore stages k) :
    Completed (accumulated (visits.take k)) name := by
  obtain ⟨j,stage,hj,hs,hn⟩ := exists_of_mem_scannersBefore hn
  obtain ⟨v,hv⟩ : ∃ v, visits[j]? = some v := ⟨_,List.getElem?_eq_getElem (by omega)⟩
  have hm : v ∈ visits.take k := List.mem_of_getElem? (i := j) (by rw [List.getElem?_take_of_lt hj,hv])
  obtain ⟨hs',_,hr,_,_⟩ := h.visit hv
  rw [hs] at hs'
  cases hs'
  have hv := hg v hm
  unfold Pipeline.goesOn at hv
  cases hd : v.run.verdict with
  | crashed text => simp [hd] at hv
  | ended found error =>
    obtain rfl : error = none := by simpa [hd,stops] using hv
    have hf := StageRun.found_of_ended hd
    rw [hr] at hd
    obtain ⟨x,hx,hc,hxn⟩ := e.exists_completed_of_ended _ _ _ _ _ _ _ hd hn
    refine ⟨x,List.mem_flatMap.mpr ⟨v,hm,by rw [hf]; exact hx⟩,?_,hxn⟩
    simpa [ScanResult.isCompleted] using hc

/-- A stage that is started finds its dependencies completed. -/
theorem completed_of_visit (h : e.Course p timeout stages 0 [] now memory visits verdict) {k : Nat}
    {v : Visit σ} (hv : visits[k]? = some v) {name : String} (hn : name ∈ v.stage.dependsOn) :
    Completed (accumulated (visits.take k)) name := by
  obtain ⟨_,_,_,hp,hm⟩ := h.visit hv
  rw [hp,List.nil_append] at hm
  exact missingDependencies_eq_nil_iff.mp hm name hn

end Course

section Pipeline

variable (e : Engine σ) (policy : StageTimeout) (p : Pipeline) (now : Nat) (memory : σ)

/-- A run that comes to a stage with an unmet dependency ends there. -/
theorem Reaches.stops {e : Engine σ} {policy : StageTimeout} {p : Pipeline} {now : Nat} {memory : σ}
    {k : Nat} {stage : Stage} (h : e.Reaches policy p now memory k) (hs : p.stages[k]? = some stage) {name : String}
    (hn : name ∈ stage.dependsOn)
    (unmet : ¬ Completed (accumulated ((e.visited policy p now memory).take k)) name) :
    (e.visited policy p now memory).length = k ∧ (e.runPipeline policy p now memory).verdict =
      .stopped (.dependencyNotMet stage.name (stage.dependsOn.filter fun name =>
        ¬ Completed (accumulated ((e.visited policy p now memory).take k)) name))
        (accumulated ((e.visited policy p now memory).take k)) := by
  obtain ⟨hc,hk,hg⟩ := h
  have course := e.visited_course policy p now memory hc
  -- a stage started as number `k` would be this one, with its dependencies met
  have hl : (e.visited policy p now memory).length = k := by
    apply Nat.le_antisymm _ hk
    apply Nat.le_of_not_lt
    intro hlt
    have hv := List.getElem?_eq_getElem hlt
    obtain ⟨hs',_,hp,met⟩ := e.visited_at policy p now memory hv
    rw [hs] at hs'
    cases hs'
    exact unmet (hp ▸ met name hn)
  rw [← hl,List.take_length] at hg ⊢
  rw [← hl] at hs
  refine ⟨rfl,?_⟩
  obtain ⟨_,hn,_⟩ | ⟨next,hs',_,hv,_⟩ | ⟨before,v,hb,_,hv,_⟩ := course.ending
  · rw [hn] at hs
    simp at hs
  · rw [hs] at hs'
    cases hs'
    rw [hv,missingDependencies_eq]
    simp
  · have hv' := hg v (by rw [hb]; simp)
    rw [hv] at hv'
    cases hv'

/-- Dependency safety: a run is the stages it starts, each of them after everything it depends on has
completed and with those results in front of its own; a stage that is reached with a dependency unmet ends
the run, whatever the policy on errors. -/
theorem runPipeline_respects_dependencies :
    (e.runPipeline policy p now memory).events =
      (e.visited policy p now memory).flatMap (·.run.events) ∧
    (∀ k v, (e.visited policy p now memory)[k]? = some v →
      p.stages[k]? = some v.stage ∧
      v.run = e.runStage p (policy.resolve p) k v.stage v.previous v.start v.memory ∧
      (∀ config ∈ dispatches v.run.events, ∃ name ∈ v.stage.scanners, config.tool = some name) ∧
      v.previous = accumulated ((e.visited policy p now memory).take k) ∧
      (∀ name ∈ v.stage.dependsOn, Completed v.previous name) ∧
      ∀ results, (e.runPipeline policy p now memory).verdict.results? = some results →
        v.previous ++ v.run.found <+: results) ∧
    ∀ k stage, p.stages[k]? = some stage → e.Reaches policy p now memory k →
      (∃ name ∈ stage.dependsOn, ¬ Completed (accumulated ((e.visited policy p now memory).take k)) name) →
      (e.visited policy p now memory).length = k ∧ (e.runPipeline policy p now memory).verdict =
        .stopped (.dependencyNotMet stage.name (stage.dependsOn.filter fun name =>
          ¬ Completed (accumulated ((e.visited policy p now memory).take k)) name))
          (accumulated ((e.visited policy p now memory).take k)) := by
  refine ⟨e.events_runPipeline policy p now memory,?_,?_⟩
  · intro k v hv
    obtain ⟨hs,hr,hp,hm⟩ := e.visited_at policy p now memory hv
    refine ⟨hs,hr,?_,hp,hm,?_⟩
    · intro config hd
      rw [hr] at hd
      exact e.tool_of_dispatches _ _ _ _ _ _ _ hd
    · intro results handed
      rw [e.results_of_run policy p now memory handed,hp]
      exact accumulated_take_prefix hv
  · rintro k stage hs reached ⟨name,hn,unmet⟩
    exact reached.stops hs hn unmet

/-- The last stage asks for a scanner that has failed. -/
def afterFailure : Pipeline where
  name := "audit"
  projectId := 1
  target := "example.com"
  stages := [{ name := "names", scanners := ["whois","dns"], parallel := true },
    { name := "hosts", scanners := ["dns"], dependsOn := ["dns"] },
    { name := "owners", scanners := ["dns"], dependsOn := ["whois","dns","whois"] }]
  continueOnError := true

theorem runPipeline_afterFailure :
    (∃ v, (halfFailing.visited .ofPipeline afterFailure 0 ())[1]? = some v ∧ Completed v.previous "dns" ∧
      v.previous ++ v.run.found <+: accumulated ((halfFailing.visited .ofPipeline afterFailure 0 ()).take 2)) ∧
    halfFailing.Reaches .ofPipeline afterFailure 0 () 2 ∧
    ¬ Completed (accumulated ((halfFailing.visited .ofPipeline afterFailure 0 ()).take 2)) "whois" ∧
    (halfFailing.visited .ofPipeline afterFailure 0 ()).length = 2 ∧
    (halfFailing.runPipeline .ofPipeline afterFailure 0 ()).verdict =
      .stopped (.dependencyNotMet "owners" ["whois","whois"])
        (accumulated ((halfFailing.visited .ofPipeline afterFailure 0 ()).take 2)) := by
  have reached : halfFailing.Reaches .ofPipeline afterFailure 0 () 2 := ⟨rfl,by decide,by decide⟩
  have unmet : ¬ Completed (accumulated ((halfFailing.visited .ofPipeline afterFailure 0 ()).take 2)) "whois" := by
    decide
  obtain ⟨_,started,stopped⟩ := halfFailing.runPipeline_respects_dependencies .ofPipeline afterFailure 0 ()
  obtain ⟨hl,hv⟩ := stopped 2 _ rfl reached ⟨"whois",by decide,unmet⟩
  obtain ⟨v,h1⟩ : ∃ v, (halfFailing.visited .ofPipeline afterFailure 0 ())[1]? = some v :=
    ⟨_,List.getElem?_eq_getElem (by decide)⟩
  obtain ⟨hs,_,_,_,met,front⟩ := started 1 v h1
  have hd : "dns" ∈ v.stage.dependsOn := by
    rw [← Option.some.inj hs]
    decide
  refine ⟨⟨v,h1,met "dns" hd,front _ (by rw [hv]; rfl)⟩,reached,unmet,hl,?_⟩
  rw [hv]
  exact congrArg (fun missing => PipelineVerdict.stopped (.dependencyNotMet "owners" missing) _) (by decide)

variable {e policy p now memory}

lemma Reaches.completed {k : Nat} (h : e.Reaches policy p now memory k) (stops : p.continueOnError = false)
    {stage : Stage} (hs : p.stages[k]? = some stage) {name : String} (hn : name ∈ stage.dependsOn) :
    Completed (accumulated ((e.visited policy p now memory).take k)) name := by
  obtain ⟨hc,hk,hg⟩ := h
  exact (e.visited_course policy p now memory hc).completed_of_mem_scannersBefore stops hk hg
    (Pipeline.scheduled_of_check hc hs hn)

lemma stageFailed_of_stopped (stops : p.continueOnError = false) (hc : p.check = .ok ()) {error : ScanError}
    {results : List ScanResult} (h : (e.runPipeline policy p now memory).verdict = .stopped error results) :
    ∃ v ∈ e.visited policy p now memory, ∃ cause, error = .stageFailed v.stage.name cause := by
  obtain ⟨hf,_⟩ | ⟨stage,hs,hm,_,hg⟩ | ⟨before,v,hb,_,_,⟨_,cause,_,_,hf⟩ | ⟨_,_,hf⟩⟩ :=
    (e.visited_course policy p now memory hc).ending
  · rw [hf] at h
    cases h
  · have reached : e.Reaches policy p now memory (e.visited policy p now memory).length :=
      ⟨hc,Nat.le_refl _,by simpa using hg⟩
    refine absurd (missingDependencies_eq_nil_iff.mpr ?_) (by simpa using hm)
    intro name hn
    simpa using reached.completed stops hs hn
  · rw [hf] at h
    cases h
    exact ⟨v,by rw [hb]; simp,cause,rfl⟩
  · rw [hf] at h
    cases h

variable (e policy p now memory)

/-- Where errors stop the run, only the check beforehand refuses a dependency: no stage that is reached
lacks one, and what stops a pipeline that was let pass is a failed stage. -/
theorem dependencyNotMet_only_if_refused (stops : p.continueOnError = false) :
    (∀ k stage, p.stages[k]? = some stage → e.Reaches policy p now memory k →
      ∀ name ∈ stage.dependsOn, Completed (accumulated ((e.visited policy p now memory).take k)) name) ∧
    (∀ stage missing results,
      (e.runPipeline policy p now memory).verdict = .stopped (.dependencyNotMet stage missing) results →
      p.check = .error (.dependencyNotMet stage missing) ∧ results = [] ∧
        (e.runPipeline policy p now memory).events = []) ∧
    (p.check = .ok () → ∀ error results,
      (e.runPipeline policy p now memory).verdict = .stopped error results →
      ∃ v ∈ e.visited policy p now memory, ∃ cause, error = .stageFailed v.stage.name cause) := by
  refine ⟨fun k stage hs reached name hn => reached.completed stops hs hn,?_,
    fun hc error results hv => stageFailed_of_stopped stops hc hv⟩
  intro stage missing results hv
  cases hc : p.check with
  | ok =>
    obtain ⟨v,_,cause,he⟩ := stageFailed_of_stopped stops hc hv
    cases he
  | error error =>
    have hr := e.runPipeline_of_refused policy p now memory hc
    rw [hr] at hv ⊢
    cases hv
    exact ⟨rfl,rfl,rfl⟩

/-- The last stage fails. -/
def failingLast : Pipeline where
  name := "audit"
  projectId := 1
  target := "example.com"
  stages := [{ name := "names", scanners := ["dns"] },
    { name := "owners", scanners := ["whois"], dependsOn := ["dns"] }]

/-- The last stage depends on scanners that no stage names. -/
def orphaned : Pipeline where
  name := "audit"
  projectId := 1
  target := "example.com"
  stages := [{ name := "names", scanners := ["dns"] },
    { name := "owners", scanners := ["whois"], dependsOn := ["nmap","dns","nmap"] }]

theorem runPipeline_failingLast :
    failingLast.continueOnError = false ∧ failingLast.check = .ok () ∧
    halfFailing.Reaches .ofPipeline failingLast 0 () 1 ∧
    Completed (accumulated ((halfFailing.visited .ofPipeline failingLast 0 ()).take 1)) "dns" ∧
    (∃ error results, (halfFailing.runPipeline .ofPipeline failingLast 0 ()).verdict = .stopped error results ∧
      ∃ v ∈ halfFailing.visited .ofPipeline failingLast 0 (), ∃ cause, error = .stageFailed v.stage.name cause) ∧
    orphaned.continueOnError = false ∧
    (halfFailing.runPipeline .ofPipeline orphaned 0 ()).verdict =
      .stopped (.dependencyNotMet "owners" ["nmap","nmap"]) [] ∧
    orphaned.check = .error (.dependencyNotMet "owners" ["nmap","nmap"]) ∧
    (halfFailing.runPipeline .ofPipeline orphaned 0 ()).events = [] := by
  have reached : halfFailing.Reaches .ofPipeline failingLast 0 () 1 := ⟨rfl,by decide,by decide⟩
  obtain ⟨met,_,failed⟩ := halfFailing.dependencyNotMet_only_if_refused .ofPipeline failingLast 0 () rfl
  obtain ⟨_,refused,_⟩ := halfFailing.dependencyNotMet_only_if_refused .ofPipeline orphaned 0 () rfl
  obtain ⟨hc,_,he⟩ := refused "owners" ["nmap","nmap"] [] rfl
  exact ⟨rfl,rfl,reached,met 1 _ rfl reached "dns" (by decide),⟨_,_,rfl,failed rfl _ _ rfl⟩,rfl,rfl,hc,he⟩

/-- A refused pipeline could not succeed: its first stage with a dependency that no earlier stage names is
never started and no run reaches the end, even without the check; with the check nothing happens at all. -/
theorem refused_never_finishes {p : Pipeline} {error : ScanError} (refused : p.check = .error error) :
    ∃ k stage, p.stages[k]? = some stage ∧
      (∃ name ∈ stage.dependsOn, name ∉ scannersBefore p.stages k) ∧
      error = .dependencyNotMet stage.name
        (stage.dependsOn.filter fun name => name ∉ scannersBefore p.stages k) ∧
      (∀ j earlier, j < k → p.stages[j]? = some earlier →
        ∀ name ∈ earlier.dependsOn, name ∈ scannersBefore p.stages j) ∧
      (∀ (e : Engine σ) policy now memory,
        e.runPipeline policy p now memory = ⟨.stopped error [],[],[],now,memory⟩) ∧
      ∀ (e : Engine σ) continueOnError timeout now memory,
        let q := { p with continueOnError := continueOnError }
        (e.runStages q timeout q.stages 0 [] now memory).events =
          (e.visits q timeout q.stages 0 [] now memory).flatMap (·.run.events) ∧
        (∀ j v, (e.visits q timeout q.stages 0 [] now memory)[j]? = some v → p.stages[j]? = some v.stage ∧
          v.run = e.runStage q timeout j v.stage v.previous v.start v.memory) ∧
        (e.visits q timeout q.stages 0 [] now memory).length ≤ k ∧
        ∀ results, (e.runStages q timeout q.stages 0 [] now memory).verdict ≠ .finished results := by
  obtain ⟨k,stage,hs,⟨name,hn,hu⟩,he,hf⟩ := Pipeline.first_unscheduled_of_check refused
  refine ⟨k,stage,hs,⟨name,hn,hu⟩,he,hf,fun e policy now memory =>
    e.runPipeline_of_refused policy p now memory refused,?_⟩
  intro e continueOnError timeout now memory q
  have course := e.runStages_course q timeout q.stages 0 [] now memory
  have hl : (e.visits q timeout q.stages 0 [] now memory).length ≤ k := by
    apply Nat.le_of_not_lt
    intro hlt
    have hv := List.getElem?_eq_getElem hlt
    have hs' := (course.visit hv).1
    rw [hs] at hs'
    cases hs'
    exact hu (course.mem_scannersBefore_of_completed (course.completed_of_visit hv hn))
  refine ⟨e.events_runStages q timeout q.stages 0 [] now memory,?_,hl,?_⟩
  · intro j v hv
    obtain ⟨hs,_,hr,_⟩ := course.visit hv
    exact ⟨hs,by simpa using hr⟩
  · intro results hv
    obtain ⟨_,hn,_⟩ | ⟨_,_,_,hf,_⟩ | ⟨_,_,_,_,_,⟨_,_,_,_,hf⟩ | ⟨_,_,hf⟩⟩ := course.ending
    · have hk := (List.getElem?_eq_some_iff.mp hs).1
      change _ = p.stages.length at hn
      omega
    all_goals rw [hf] at hv; cases hv

theorem orphaned_never_finishes :
    orphaned.check = .error (.dependencyNotMet "owners" ["nmap","nmap"]) ∧
    halfFailing.runPipeline .ofPipeline orphaned 0 () =
      ⟨.stopped (.dependencyNotMet "owners" ["nmap","nmap"]) [],[],[],0,()⟩ ∧
    ∀ results, (halfFailing.runStages { orphaned with continueOnError := true } .zero
      orphaned.stages 0 [] 0 ()).verdict ≠ .finished results := by
  have refused : orphaned.check = .error (.dependencyNotMet "owners" ["nmap","nmap"]) := rfl
  obtain ⟨k,stage,_,_,_,_,still,loop⟩ := refused_never_finishes refused
  exact ⟨refused,still halfFailing .ofPipeline 0 (),(loop halfFailing true .zero 0 ()).2.2.2⟩

end Pipeline
end Engine
end Recon
