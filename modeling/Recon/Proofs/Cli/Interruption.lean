import Recon.Cli.Run
import Recon.Proofs.Engine.Cancellation
import Recon.Proofs.Engine.Registration

/-! A run that is given up before it starts. Its scans all fail, so it can only come to its end if nothing has to
succeed in it: errors do not stop the pipeline, and no stage depends on another. -/
namespace Recon

variable {σ : Type}

namespace Pipeline

/-- Something has to succeed for the pipeline to come to its end: errors stop it, or a stage has a dependency. -/
def Exacting (p : Pipeline) : Prop := p.continueOnError = false ∨ ∃ stage ∈ p.stages, stage.dependsOn ≠ []

instance (p : Pipeline) : Decidable p.Exacting :=
  inferInstanceAs (Decidable (p.continueOnError = false ∨ ∃ stage ∈ p.stages, stage.dependsOn ≠ []))

/-- There is a scanner to run. -/
def Busy (p : Pipeline) : Prop := ∃ stage ∈ p.stages, stage.scanners ≠ []

instance (p : Pipeline) : Decidable p.Busy :=
  inferInstanceAs (Decidable (∃ stage ∈ p.stages, stage.scanners ≠ []))

lemma continues_of_not_exacting {p : Pipeline} (h : ¬ p.Exacting) :
    p.continueOnError = true ∧ ∀ stage ∈ p.stages, stage.dependsOn = [] := by
  unfold Exacting at h
  constructor
  · simpa using fun stops => h (Or.inl stops)
  · intro stage hs
    apply Classical.not_not.mp
    exact fun hd => h (Or.inr ⟨stage,hs,hd⟩)

/-- Without dependencies there is nothing to refuse. -/
theorem check_of_independent {p : Pipeline} (independent : ∀ stage ∈ p.stages, stage.dependsOn = []) :
    p.check = .ok () := by
  cases hc : p.check with
  | ok => rfl
  | error error =>
    obtain ⟨k,stage,hs,⟨name,hn,_⟩,_⟩ := first_unscheduled_of_check hc
    rw [independent stage (List.mem_of_getElem? hs)] at hn
    cases hn

end Pipeline

namespace Engine

section Visits

variable {e : Engine σ} {c : Nat} (given : e.world.cancelAt = some c) {p : Pipeline} {timeout : Duration}
  {index : Nat} {v : Visit σ} (ran : v.run = e.runStage p timeout index v.stage v.previous v.start v.memory)
  (after : c ≤ v.start)

include given ran after

/-- No scan of a stage completes that starts from then on, so the stage finds nothing completed. -/
theorem not_completed_of_after (name : String) : ¬ Completed v.run.found name := by
  rintro ⟨x,hx,completed,_⟩
  obtain ⟨a,ha,hr⟩ := exists_attempt_of_found ran hx
  obtain ⟨config,start,memory,hs,rfl⟩ := e.attempts_start given ha
  have hc : x.isCompleted = true := by simp [ScanResult.isCompleted,completed]
  obtain ⟨_,y,hy,_,_,⟨hv,_⟩ | ⟨_,_,hn⟩⟩ | ⟨_,hn,_⟩ := e.registry.scan_result_cases e.world config start memory
  · exact Registry.ne_completed_of_after given (Nat.le_trans after hs) y hv
  · rw [hr,Option.some.injEq] at hy
    rw [← hy,hc] at hn
    cases hn
  · rw [hr] at hn
    cases hn

/-- A stage with a scanner fails that starts from then on. -/
theorem scanners_eq_nil_of_unfailing {found : List ScanResult} (ended : v.run.verdict = .ended found none) :
    v.stage.scanners = [] := by
  apply List.eq_nil_iff_forall_not_mem.mpr
  intro name hn
  rw [ran] at ended
  obtain ⟨x,hx,hc,_⟩ := e.exists_completed_of_ended p timeout index v.stage v.previous v.start v.memory ended hn
  have hf : x ∈ v.run.found := by rw [ran,StageRun.found_of_ended ended]; exact hx
  refine not_completed_of_after given ran after x.scanner ⟨x,hf,?_,rfl⟩
  simpa [ScanResult.isCompleted] using hc

end Visits

section Pipeline

variable (e : Engine σ) (policy : StageTimeout) (p : Pipeline) (now : Nat) (memory : σ)

/-- A run that is given up before does not come to its end if something has to succeed in it. -/
theorem not_finished_of_after {c : Nat} (given : e.world.cancelAt = some c) (after : c ≤ now) (busy : p.Busy)
    (exacting : p.Exacting) (results : List ScanResult) :
    (e.runPipeline policy p now memory).verdict ≠ .finished results := by
  intro finished
  obtain ⟨accepted,_,stages,goes⟩ := of_finished finished
  have late : ∀ v ∈ e.visited policy p now memory, c ≤ v.start := by
    intro v hv
    unfold visited at hv
    simp only [accepted] at hv
    exact Nat.le_trans after (e.le_start given _ _ _ _ _ _ _ hv)
  obtain stops | ⟨stage,hs,hd⟩ := exacting
  · obtain ⟨stage,hs,hn⟩ := busy
    rw [← stages] at hs
    obtain ⟨v,hv,rfl⟩ := List.mem_map.mp hs
    obtain ⟨_,ran⟩ := ran_of_mem_visited hv
    have turn := goes v hv
    cases hr : v.run.verdict with
    | crashed text => simp [Pipeline.goesOn,hr] at turn
    | ended found error =>
      obtain rfl : error = none := by simpa [Pipeline.goesOn,hr,stops] using turn
      exact hn (scanners_eq_nil_of_unfailing given ran (late v hv) hr)
  · obtain ⟨k,hk⟩ := List.getElem?_of_mem hs
    obtain ⟨name,hn⟩ := List.exists_mem_of_ne_nil _ hd
    obtain ⟨_,_,v,hv,completed⟩ := met_of_finished finished hk hn
    have hm := List.mem_of_getElem? hv
    obtain ⟨_,ran⟩ := ran_of_mem_visited hm
    exact not_completed_of_after given ran (late v hm) name completed

/-- A run in which nothing has to succeed comes to its end. -/
theorem finished_of_not_exacting (safe : e.registry.VerifiesSafely) (h : ¬ p.Exacting) :
    ∃ results, (e.runPipeline policy p now memory).verdict = .finished results := by
  obtain ⟨continues,independent⟩ := Pipeline.continues_of_not_exacting h
  refine finished_of_met safe continues (Pipeline.check_of_independent independent) ?_
  intro k stage hs name hn
  rw [independent stage (List.mem_of_getElem? hs)] at hn
  cases hn

/-- Without crashes a run comes to its end or is stopped. -/
theorem finished_or_stopped (safe : e.registry.VerifiesSafely) :
    (∃ results, (e.runPipeline policy p now memory).verdict = .finished results) ∨
      ∃ error results, (e.runPipeline policy p now memory).verdict = .stopped error results := by
  cases hv : (e.runPipeline policy p now memory).verdict with
  | finished results => exact Or.inl ⟨results,rfl⟩
  | stopped error results => exact Or.inr ⟨error,results,rfl⟩
  | crashed text =>
    cases hc : p.check with
    | error error =>
      rw [e.runPipeline_of_refused policy p now memory hc] at hv
      cases hv
    | ok =>
      have hr := e.results_of_safe policy p now memory safe hc
      rw [hv] at hr
      cases hr

lemma finished_iff_not_exacting {c : Nat} (given : e.world.cancelAt = some c) (after : c ≤ now) (busy : p.Busy)
    (safe : e.registry.VerifiesSafely) :
    (∃ results, (e.runPipeline policy p now memory).verdict = .finished results) ↔ ¬ p.Exacting := by
  constructor
  · rintro ⟨results,finished⟩ exacting
    exact e.not_finished_of_after policy p now memory given after busy exacting results finished
  · exact e.finished_of_not_exacting policy p now memory safe

lemma stopped_iff_exacting {c : Nat} (given : e.world.cancelAt = some c) (after : c ≤ now) (busy : p.Busy)
    (safe : e.registry.VerifiesSafely) :
    (∃ error results, (e.runPipeline policy p now memory).verdict = .stopped error results) ↔ p.Exacting := by
  have ends := e.finished_iff_not_exacting policy p now memory given after busy safe
  constructor
  · rintro ⟨error,results,stopped⟩
    apply Classical.not_not.mp
    intro lax
    obtain ⟨_,finished⟩ := ends.mpr lax
    rw [stopped] at finished
    cases finished
  · intro exacting
    obtain finished | stopped := e.finished_or_stopped policy p now memory safe
    · exact absurd exacting (ends.mp finished)
    · exact stopped

end Pipeline
end Engine

namespace Cli.Surroundings

/-- The bundled tools do not crash over a configuration. -/
theorem verifiesSafely_registry (s : Surroundings σ) (settings : Settings) :
    (s.registry settings).VerifiesSafely := by
  intro t ht config text
  obtain ht | ht := Registry.mem_of_registerAll ht
  · cases ht
  · obtain ⟨a,_,rfl⟩ := List.mem_map.mp ht
    change Verification.ofExcept (a.check config) ≠ _
    cases a.check config <;> simp [Verification.ofExcept]

/-- A pipeline that is run from the command line ends the program with success exactly if it comes to its end. -/
theorem code_runPipeline (s : Surroundings σ) (settings : Settings) {request : PipelineRequest} {p : Pipeline}
    (bound : s.pipeline settings request = .ok p) (memory : σ) :
    ((∃ results, (Engine.runPipeline ⟨s.registry settings,s.world,s.arrival⟩ settings.pipeline.policy p 0
      memory).verdict = .finished results) → (s.runPipeline settings request memory).outcome.code = 0) ∧
    ((∃ error results, (Engine.runPipeline ⟨s.registry settings,s.world,s.arrival⟩ settings.pipeline.policy p 0
      memory).verdict = .stopped error results) → (s.runPipeline settings request memory).outcome.code = 1) := by
  unfold runPipeline
  simp only [bound]
  constructor
  · rintro ⟨results,h⟩
    simp only [h]
    rfl
  · rintro ⟨error,results,h⟩
    simp only [h]
    rfl

end Cli.Surroundings

/-- A pipeline with a scanner in it that is given up before it is run never comes to its end if something has to
succeed in it; without crashes it is then stopped, and comes to its end otherwise. From the command line such a
run ends with status 1, and otherwise with status 0. -/
theorem stopped_if_given_up_before {σ : Type} :
    (∀ (e : Engine σ) (policy : StageTimeout) (p : Pipeline) (now : Nat) (memory : σ) (c : Nat),
      e.world.cancelAt = some c → c ≤ now → p.Busy →
      (p.Exacting → ∀ results, (e.runPipeline policy p now memory).verdict ≠ .finished results) ∧
      (e.registry.VerifiesSafely →
        ((∃ error results, (e.runPipeline policy p now memory).verdict = .stopped error results) ↔ p.Exacting) ∧
        ((∃ results, (e.runPipeline policy p now memory).verdict = .finished results) ↔ ¬ p.Exacting))) ∧
    ∀ (s : Cli.Surroundings σ) (words : List String) (i : Cli.Invocation) (settings : Settings)
      (request : Cli.PipelineRequest) (p : Pipeline) (memory : σ),
      s.world.cancelAt = some 0 → Cli.readArguments s.host.settingsFile words = .ok i →
      i.task = .pipeline request → Settings.load s.host i.settingsFile = .ok settings →
      s.pipeline settings request = .ok p → p.Busy →
      (s.process words memory).1.code = if p.Exacting then 1 else 0 := by
  constructor
  · intro e policy p now memory c given after busy
    exact ⟨e.not_finished_of_after policy p now memory given after busy,
      fun safe => ⟨e.stopped_iff_exacting policy p now memory given after busy safe,
        e.finished_iff_not_exacting policy p now memory given after busy safe⟩⟩
  · intro s words i settings request p memory given read asked loaded bound busy
    have safe := s.verifiesSafely_registry settings
    obtain ⟨finished,stopped⟩ := s.code_runPipeline settings bound memory
    have process : (s.process words memory).1.code = (s.runPipeline settings request memory).outcome.code := by
      unfold Cli.Surroundings.process Cli.Surroundings.run Cli.Surroundings.runTask
      simp only [read,loaded,asked]
    rw [process]
    split
    · next exacting =>
      exact stopped ((Engine.stopped_iff_exacting _ settings.pipeline.policy p 0 memory given (Nat.le_refl 0) busy
        safe).mpr exacting)
    · next lax => exact finished (Engine.finished_of_not_exacting _ settings.pipeline.policy p 0 memory safe lax)

/-- A machine with every program, on which the caller gives up at once. -/
def Cli.givenUp : Cli.Surroundings Unit where
  host := { read := fun _ => .error .missing, isProgram := fun _ => true, home := none, settingsFile := none }
  world := { World.still with cancelAt := some 0 }
  arrival := .byFinish Unit

/-- An engine in which the caller has given up before anything. -/
def Engine.givenUp : Engine Unit := { halfFailing with world := { World.still with cancelAt := some 0 } }

/-- One serial stage; whether the run continues after errors is to be chosen. -/
def Pipeline.lone (continues : Bool) : Pipeline where
  name := "audit"
  projectId := 1
  target := "example.com"
  stages := [{ name := "names", scanners := ["dns"] }]
  continueOnError := continues

theorem stopped_if_given_up_before_quick :
    (∃ error results, (Engine.givenUp.runPipeline .ofPipeline (.lone false) 0 ()).verdict =
      .stopped error results) ∧
    (¬ ∃ error results, (Engine.givenUp.runPipeline .ofPipeline (.lone true) 0 ()).verdict =
      .stopped error results) ∧
    (∃ results, (Engine.givenUp.runPipeline .ofPipeline (.lone true) 0 ()).verdict = .finished results) ∧
    (Cli.givenUp.process ["pipeline","quick","-p","1","-t","example.com"] ()).1.code = 1 := by
  obtain ⟨engines,programs⟩ := @stopped_if_given_up_before Unit
  have safe : Engine.givenUp.registry.VerifiesSafely := Engine.verifiesSafely_halfFailing
  have stopping := (engines Engine.givenUp .ofPipeline (.lone false) 0 () 0 rfl (Nat.le_refl 0) (by decide)).2 safe
  have continuing := (engines Engine.givenUp .ofPipeline (.lone true) 0 () 0 rfl (Nat.le_refl 0) (by decide)).2 safe
  have quick := programs Cli.givenUp ["pipeline","quick","-p","1","-t","example.com"] _ _ _ _ () rfl rfl rfl rfl
    rfl (by decide)
  exact ⟨stopping.1.mpr (by decide),fun stopped => absurd (continuing.1.mp stopped) (by decide),
    continuing.2.mpr (by decide),quick⟩

/-- A run that is given up before it starts can end with success. -/
theorem given_up_before_finishes : Engine.givenUp.world.cancelAt = some 0 ∧
    Engine.givenUp.registry.VerifiesSafely ∧ (Pipeline.lone true).Busy ∧
    (Engine.givenUp.runPipeline .ofPipeline (.lone true) 0 ()).verdict = .finished [] :=
  ⟨rfl,Engine.verifiesSafely_halfFailing,by decide,rfl⟩

end Recon
