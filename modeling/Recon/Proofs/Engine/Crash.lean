import Recon.Proofs.Engine.Course

/-! Where a crash gets through. What a scanner does once it is started is contained, and so is everything in
the tasks of a parallel stage; a crash of a scanner that verifies a configuration ends the scan, and with it
the serial stage and the run that asked for it. -/
namespace Recon

variable {σ : Type}

/-- The configuration reaches a scanner that crashes with `text` while it verifies it. -/
def Registry.Upsets (r : Registry) (config : ScanConfig) (text : String) : Prop :=
  ∃ s, r.select config = .ok s ∧ s.verify config = .crashed text

/-- A scan crashes exactly if its scanner does so before it is started. -/
theorem Registry.scan_crashed_iff (r : Registry) (w : World σ) (config : ScanConfig) (now : Nat) (memory : σ)
    (text : String) : (r.scan w config now memory).verdict = .crashed text ↔ r.Upsets config text := by
  unfold Upsets
  obtain ⟨error,hs,hr⟩ | ⟨s,hs,hr⟩ := r.scan_cases w config now memory
  · simp [hr,hs]
  · rw [hs]
    obtain ⟨_,hv,hr⟩ | ⟨_,hv,hr⟩ | ⟨hv,hr⟩ := hr
    · simp [hr,hv]
    · simp [hr,hv]
    · obtain ⟨_,_,_,ha⟩ | ⟨_,_,ha⟩ := s.attempt_cases w config now memory <;> simp [hr,hv,ha]

namespace Engine

lemma runSerial_crashed_iff (e : Engine σ) (config : String → List ScanResult → ScanConfig)
    (previous done : List ScanResult) (names : List String) (now : Nat) (memory : σ) (text : String) :
    (e.runSerial config previous done names now memory).verdict = .crashed text ↔
      ∃ c ∈ dispatches (e.runSerial config previous done names now memory).events,
        e.registry.Upsets c text := by
  induction names generalizing done now memory with
  | nil => simp [runSerial]
  | cons name names ih =>
    have first := e.registry.scan_crashed_iff e.world (config name (previous ++ done)) now memory text
    unfold runSerial
    cases hv : (e.registry.scan e.world (config name (previous ++ done)) now memory).verdict with
    | completed x =>
      have calm : ¬ e.registry.Upsets (config name (previous ++ done)) text := by simp [← first,hv]
      simp [hv,calm,ih]
    | failed error result =>
      have calm : ¬ e.registry.Upsets (config name (previous ++ done)) text := by simp [← first,hv]
      simp [hv,calm]
    | crashed other => simp [hv,← first]

/-- A stage crashes exactly if it is serial and asks for a scan that crashes. -/
theorem runStage_crashed_iff (e : Engine σ) (p : Pipeline) (timeout : Duration) (index : Nat) (stage : Stage)
    (previous : List ScanResult) (now : Nat) (memory : σ) (text : String) :
    (e.runStage p timeout index stage previous now memory).verdict = .crashed text ↔
      stage.parallel = false ∧ ∃ c ∈ dispatches (e.runStage p timeout index stage previous now memory).events,
        e.registry.Upsets c text := by
  cases hm : stage.parallel with
  | true =>
    rw [e.runStage_of_parallel _ _ _ _ _ _ _ hm,runParallel_verdict]
    simp
  | false =>
    rw [e.runStage_of_serial _ _ _ _ _ _ _ hm,runSerial_crashed_iff]
    simp

lemma Course.crashed_iff {e : Engine σ} {p : Pipeline} {timeout : Duration} {stages : List Stage}
    {index : Nat} {results : List ScanResult} {now : Nat} {memory : σ} {visits : List (Visit σ)}
    {verdict : PipelineVerdict} (h : e.Course p timeout stages index results now memory visits verdict)
    {text : String} : verdict = .crashed text ↔ ∃ v ∈ visits, v.run.verdict = .crashed text := by
  induction h with
  | finished | unmet => simp
  | crashed met ran ended => simp [ended]
  | stopped met ran ended stops => simp [ended]
  | @next _ _ _ _ _ _ s _ _ met ran goes rest ih =>
    have hs : s.verdict ≠ .crashed text := by
      intro crashed
      simp [Pipeline.goesOn,crashed] at goes
    simp [ih,hs]

/-- A crash gets through to the caller exactly where a scanner crashes while it verifies a configuration: in a
scan by itself, and in a run whenever a serial stage asks for such a scan. -/
theorem crashed_iff_upset (e : Engine σ) :
    (∀ config now memory text, (e.registry.scan e.world config now memory).verdict = .crashed text ↔
      e.registry.Upsets config text) ∧
    ∀ policy p now memory text, (e.runPipeline policy p now memory).verdict = .crashed text ↔
      ∃ v ∈ e.visited policy p now memory, v.stage.parallel = false ∧
        ∃ config ∈ dispatches v.run.events, e.registry.Upsets config text := by
  refine ⟨fun config now memory text => e.registry.scan_crashed_iff e.world config now memory text,?_⟩
  intro policy p now memory text
  cases hc : p.check with
  | error error =>
    rw [e.runPipeline_of_refused policy p now memory hc,e.visited_of_refused policy p now memory hc]
    simp
  | ok =>
    rw [(e.visited_course policy p now memory hc).crashed_iff]
    constructor
    · rintro ⟨v,hv,crashed⟩
      obtain ⟨_,ran⟩ := ran_of_mem_visited hv
      refine ⟨v,hv,?_⟩
      rw [ran] at crashed ⊢
      exact (e.runStage_crashed_iff _ _ _ _ _ _ _ text).mp crashed
    · rintro ⟨v,hv,upset⟩
      obtain ⟨_,ran⟩ := ran_of_mem_visited hv
      refine ⟨v,hv,?_⟩
      rw [ran] at upset ⊢
      exact (e.runStage_crashed_iff _ _ _ _ _ _ _ text).mpr upset

/-- One scanner crashes over every configuration, the other when it is started. -/
def brittle : Engine Unit := still
  { scanners := [{ Scanner.doing "nmap" .port (.finish (.ports [])) with verify := fun _ => .crashed "invalid" },
      .doing "dns" .subdomain .crash]
    nodup := by decide
    named := by decide }

def hosts (parallel : Bool) : Pipeline where
  name := "audit"
  projectId := 1
  target := "example.com"
  stages := [{ name := "hosts", scanners := ["nmap"], parallel := parallel }]

/-- A crash that gets through, alone and in a serial stage; the same in a task and in a job is contained. -/
theorem crash_gets_through :
    (brittle.registry.scan brittle.world ((ScanConfig.create 1 "example.com").withTool "nmap") 0 ()).verdict =
      .crashed "invalid" ∧
    (brittle.runPipeline .ofPipeline (hosts false) 0 ()).verdict = .crashed "invalid" ∧
    (brittle.runPipeline .ofPipeline (hosts true) 0 ()).verdict = .stopped (.stageFailed "hosts"
      (.scanFailed "hosts" "task 0 panicked with message \"invalid\"")) [] ∧
    ∃ result, (brittle.registry.scan brittle.world ((ScanConfig.create 1 "example.com").withTool "dns") 0
      ()).verdict = .failed (.scanFailed "dns" "scanner panicked") (some result) :=
  ⟨rfl,rfl,by decide,_,rfl⟩

end Engine
end Recon
