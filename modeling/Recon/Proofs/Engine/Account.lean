import Recon.Proofs.Engine.Course

/-! Every attempt of a run is accounted for: what a run hands out is what its stages found, stage after
stage, and what a stage found is told by its attempts, each of them made once. -/
namespace Recon

variable {σ : Type}

namespace Engine

/-- The books of a parallel stage whose scanners all start at one moment. -/
structure ParallelAccount (e : Engine σ) (index : Nat) (config : String → ScanConfig) (names : List String)
    (now : Nat) (attempts : List (Attempt σ)) (events : List Event) (found : List ScanResult)
    (error : Option ScanError) : Prop where
  asked : ∀ (i : Nat) (a : Attempt σ), attempts[i]? = some a → ∃ name memory, names[i]? = some name ∧
    a = e.registry.scan e.world (config name) now memory ∧
    (a.result?.isSome = true ↔ e.registry.Accepts (config name))
  length : attempts.length = names.length
  dispatched : dispatches events = names.map config
  arrival : (e.arrival.order index attempts).Perm attempts
  results : found = (e.arrival.order index attempts).filterMap Attempt.result?
  terminal : ∀ x ∈ found, x.status.isTerminal = true
  failure : error = (e.arrival.order index attempts).findSome? Attempt.error?

lemma ParallelAccount.isCompleted {e : Engine σ} {index : Nat} {config : String → ScanConfig}
    {names : List String} {now : Nat} {attempts : List (Attempt σ)} {events : List Event}
    {found : List ScanResult} (h : e.ParallelAccount index config names now attempts events found none)
    {x : ScanResult} (hx : x ∈ found) : x.isCompleted = true := by
  rw [h.results] at hx
  obtain ⟨a,ha,hr⟩ := List.mem_filterMap.mp hx
  have he := List.findSome?_eq_none_iff.mp h.failure.symm a ha
  obtain ⟨i,hi⟩ := List.getElem?_of_mem (h.arrival.mem_iff.mp ha)
  obtain ⟨name,memory,_,rfl,_⟩ := h.asked i a hi
  exact Registry.isCompleted_of_result hr he

section Parallel

variable (e : Engine σ) (index : Nat) (stage : String) (config : String → ScanConfig) (names : List String)
  (now : Nat) (memory : σ)

lemma tasks_eq_of_safe (safe : e.registry.VerifiesSafely) :
    e.tasks stage config names now memory = (e.startAll config now names memory).1 := by
  unfold tasks
  apply List.ext_getElem (by simp)
  intro i _ hi
  obtain ⟨name,start,_,ha⟩ := e.startAll_asked config names now memory (List.getElem?_eq_getElem hi)
  rw [List.getElem_mapIdx,ha]
  exact Attempt.asTask_of_not_crashed (fun text => safe.verdict_ne_crashed text) stage i

lemma runParallel_account (safe : e.registry.VerifiesSafely) :
    ∃ found error, (e.runParallel index stage config names now memory).verdict = .ended found error ∧
      e.ParallelAccount index config names now (e.startAll config now names memory).1
        (e.runParallel index stage config names now memory).events found error := by
  have hv := e.runParallel_verdict index stage config names now memory
  unfold arrived at hv
  rw [e.tasks_eq_of_safe stage config names now memory safe] at hv
  refine ⟨_,_,hv,?_,e.startAll_length config names now memory,
    e.dispatches_startAll config names now memory,e.arrival.perm index _,rfl,?_,rfl⟩
  · intro i a ha
    obtain ⟨name,start,hn,rfl⟩ := e.startAll_asked config names now memory ha
    exact ⟨name,start,hn,rfl,Registry.result?_isSome_iff ..⟩
  · intro x hx
    obtain ⟨a,ha,hr⟩ := List.mem_filterMap.mp hx
    obtain ⟨i,hi⟩ := List.getElem?_of_mem ((e.arrival.perm index _).mem_iff.mp ha)
    obtain ⟨name,start,_,rfl⟩ := e.startAll_asked config names now memory hi
    exact (Registry.tool_of_result hr).2

end Parallel

/-- A stage that was run as number `index` of a pipeline has its books. -/
def Accounted (e : Engine σ) (p : Pipeline) (timeout : Duration) (index : Nat) (v : Visit σ) : Prop :=
  ∃ error, v.run.verdict = .ended v.run.found error ∧
    (v.stage.parallel = false →
      e.SerialAccount (p.configFor timeout v.stage) v.previous v.stage.scanners
        (e.serialAttempts (p.configFor timeout v.stage) v.previous [] v.stage.scanners v.start v.memory)
        v.run.events v.run.found error) ∧
    (v.stage.parallel = true →
      e.ParallelAccount index (fun name => p.configFor timeout v.stage name v.previous) v.stage.scanners v.start
        (e.startAll (fun name => p.configFor timeout v.stage name v.previous) v.start v.stage.scanners v.memory).1
        v.run.events v.run.found error)

namespace Accounted

variable {e : Engine σ} {p : Pipeline} {timeout : Duration} {index : Nat} {v : Visit σ}

lemma of_safe (safe : e.registry.VerifiesSafely)
    (ran : v.run = e.runStage p timeout index v.stage v.previous v.start v.memory) :
    e.Accounted p timeout index v := by
  cases hm : v.stage.parallel with
  | false =>
    obtain ⟨error,he⟩ := e.runStage_ended p timeout index v.stage v.previous v.start v.memory safe
    rw [← ran] at he
    refine ⟨error,he,fun _ => ?_,fun h => by simp [hm] at h⟩
    rw [ran,e.runStage_of_serial p timeout index v.stage v.previous v.start v.memory hm] at he ⊢
    exact serial_account he
  | true =>
    rw [e.runStage_of_parallel p timeout index v.stage v.previous v.start v.memory hm] at ran
    obtain ⟨found,error,he,account⟩ := e.runParallel_account index v.stage.name
      (fun name => p.configFor timeout v.stage name v.previous) v.stage.scanners v.start v.memory safe
    rw [← ran] at he account
    have hf := StageRun.found_of_ended he
    exact ⟨error,by rw [hf,he],fun h => by simp [hm] at h,fun _ => by rw [hf]; exact account⟩

/-- Only a parallel stage keeps the results of attempts that did not complete. -/
theorem parallel_of_not_isCompleted (h : e.Accounted p timeout index v) {x : ScanResult}
    (hx : x ∈ v.run.found) (hc : x.isCompleted = false) : v.stage.parallel = true := by
  obtain ⟨_,_,serial,_⟩ := h
  cases hm : v.stage.parallel with
  | true => rfl
  | false =>
    rw [(serial hm).isCompleted hx] at hc
    cases hc

lemma isCompleted_of_goesOn (h : e.Accounted p timeout index v) (stops : p.continueOnError = false)
    (goes : p.goesOn v.run = true) {x : ScanResult} (hx : x ∈ v.run.found) : x.isCompleted = true := by
  obtain ⟨error,he,serial,parallel⟩ := h
  obtain rfl : error = none := by simpa [Pipeline.goesOn,he,stops] using goes
  cases hm : v.stage.parallel with
  | false => exact (serial hm).isCompleted hx
  | true => exact (parallel hm).isCompleted hx

end Accounted

section Pipeline

variable (e : Engine σ) (policy : StageTimeout) (p : Pipeline) (now : Nat) (memory : σ)

lemma results_of_safe (safe : e.registry.VerifiesSafely) (accepted : p.check = .ok ()) :
    (e.runPipeline policy p now memory).verdict.results? = some (accumulated (e.visited policy p now memory)) := by
  have course := e.visited_course policy p now memory accepted
  obtain ⟨hv,_⟩ | ⟨_,_,_,hv,_⟩ | ⟨before,v,hb,_,_,⟨_,_,_,_,hv⟩ | ⟨text,hr,_⟩⟩ := course.ending
  · rw [hv]; rfl
  · rw [hv]; rfl
  · rw [hv]; rfl
  · obtain ⟨_,ran⟩ := ran_of_mem_visited (show v ∈ e.visited policy p now memory by rw [hb]; simp)
    obtain ⟨error,he,_⟩ := Accounted.of_safe safe ran
    rw [hr] at he
    cases he

/-- Nothing is lost and nothing comes twice: a run hands out what its stages found, in their order. A serial
stage asks for its entries one by one up to the first error and finds what completed before it; a parallel
stage asks for every entry and finds, as they arrive, all that its attempts leave. -/
theorem runPipeline_accounts (safe : e.registry.VerifiesSafely) (accepted : p.check = .ok ()) :
    (e.runPipeline policy p now memory).verdict.results? =
      some ((e.visited policy p now memory).flatMap (·.run.found)) ∧
    (e.runPipeline policy p now memory).events =
      (e.visited policy p now memory).flatMap (·.run.events) ∧
    (∀ k v, (e.visited policy p now memory)[k]? = some v → p.stages[k]? = some v.stage ∧
      v.run = e.runStage p (policy.resolve p) k v.stage v.previous v.start v.memory ∧
      v.previous = ((e.visited policy p now memory).take k).flatMap (·.run.found) ∧
      e.Accounted p (policy.resolve p) k v) ∧
    (∀ v ∈ e.visited policy p now memory, ∀ x ∈ v.run.found, x.isCompleted = false →
      v.stage.parallel = true) ∧
    (p.continueOnError = false → ∀ v ∈ (e.visited policy p now memory).dropLast,
      ∀ x ∈ v.run.found, x.isCompleted = true) := by
  have course := e.visited_course policy p now memory accepted
  have books : ∀ k v, (e.visited policy p now memory)[k]? = some v → p.stages[k]? = some v.stage ∧
      v.run = e.runStage p (policy.resolve p) k v.stage v.previous v.start v.memory ∧
      v.previous = accumulated ((e.visited policy p now memory).take k) ∧
      e.Accounted p (policy.resolve p) k v := by
    intro k v hv
    obtain ⟨hs,hr,hp,_⟩ := e.visited_at policy p now memory hv
    exact ⟨hs,hr,hp,.of_safe safe hr⟩
  refine ⟨e.results_of_safe policy p now memory safe accepted,e.events_runPipeline policy p now memory,books,
    ?_,?_⟩
  · intro v hv x hx hc
    obtain ⟨k,hk⟩ := List.getElem?_of_mem hv
    obtain ⟨_,_,_,account⟩ := books k v hk
    exact account.parallel_of_not_isCompleted hx hc
  · intro stops v hv x hx
    obtain ⟨k,hk⟩ := List.getElem?_of_mem (List.dropLast_subset _ hv)
    obtain ⟨_,_,_,account⟩ := books k v hk
    exact account.isCompleted_of_goesOn stops (course.goesOn_of_mem_dropLast hv) hx

/-- A serial stage, then a parallel one with repeated, failing and unknown scanners. -/
def mixed : Pipeline where
  name := "audit"
  projectId := 1
  target := "example.com"
  stages := [{ name := "names", scanners := ["dns","dns"] },
    { name := "owners", scanners := ["whois","dns","whois","nmap"], parallel := true, dependsOn := ["dns"] }]

theorem runPipeline_mixed :
    halfFailing.registry.VerifiesSafely ∧ mixed.check = .ok () ∧ mixed.continueOnError = false ∧
    (halfFailing.runPipeline .ofPipeline mixed 0 ()).verdict.results? =
      some ((halfFailing.visited .ofPipeline mixed 0 ()).flatMap (·.run.found)) ∧
    (∃ u ∈ (halfFailing.visited .ofPipeline mixed 0 ()).dropLast, u.stage.parallel = false ∧
      (dispatches u.run.events).map (·.tool) = [some "dns",some "dns"] ∧
      ∃ x ∈ u.run.found, x.isCompleted = true) ∧
    ∃ v ∈ halfFailing.visited .ofPipeline mixed 0 (), v.stage.parallel = true ∧
      (dispatches v.run.events).map (·.tool) = [some "whois",some "dns",some "whois",some "nmap"] ∧
      v.run.found.map (fun x => (x.scanner,x.status)) =
        [("whois",.failed),("dns",.completed),("whois",.failed)] := by
  have safe : halfFailing.registry.VerifiesSafely := by
    intro s hs config text
    simp only [halfFailing,still,List.mem_cons,List.not_mem_nil,or_false] at hs
    obtain rfl | rfl := hs <;> simp [Scanner.doing]
  obtain ⟨results,_,books,failing,stopping⟩ := halfFailing.runPipeline_accounts .ofPipeline mixed 0 () safe rfl
  refine ⟨safe,rfl,rfl,results,?_,?_⟩
  · have hm : (halfFailing.visited .ofPipeline mixed 0 ())[0] ∈
        (halfFailing.visited .ofPipeline mixed 0 ()).dropLast := List.mem_of_getElem? (i := 0) rfl
    obtain ⟨_,_,_,error,_,serial,_⟩ := books 0 _ (List.getElem?_eq_getElem (by decide))
    refine ⟨_,hm,rfl,?_,_,List.mem_of_getElem? (i := 0) rfl,stopping rfl _ hm _ (List.mem_of_getElem? (i := 0) rfl)⟩
    rw [(serial rfl).dispatched]
    rfl
  · have hm : (halfFailing.visited .ofPipeline mixed 0 ())[1] ∈
        halfFailing.visited .ofPipeline mixed 0 () := List.getElem_mem _
    obtain ⟨_,_,_,error,_,_,parallel⟩ := books 1 _ (List.getElem?_eq_getElem (by decide))
    have hp := failing _ hm _ (List.mem_of_getElem? (i := 0) rfl) rfl
    refine ⟨_,hm,hp,?_,by decide⟩
    rw [(parallel hp).dispatched]
    rfl

end Pipeline
end Engine
end Recon
