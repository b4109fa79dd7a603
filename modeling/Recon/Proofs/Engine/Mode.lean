import Mathlib.Data.List.Perm.Subperm
import Recon.Proofs.Engine.Forecast

/-! The two modes of a stage. Where no scan hangs on the results of others, the order in which a stage goes
about its scans does not matter: one after another or all at once, it ends with an error in the same cases
and without one it finds the same. A serial stage that ends early has found part of what a parallel one
finds. -/
namespace Recon

variable {σ₁ σ₂ : Type}

/-- A serial stage whose scans do not hang on each other finds the results of its entries up to the first
that is not to complete. -/
theorem Registry.forecastSerial_cases {r : Registry} {view : ScanConfig → ScanConfig}
    {outcome : String → ScanConfig → Ending} {config : String → List ScanResult → ScanConfig}
    {told : String → Verdict}
    (fixed : ∀ name parents, r.forecast view outcome (config name parents) = told name)
    (unbroken : ∀ name text, told name ≠ .crashed text) (previous done : List ScanResult) (names : List String) :
    ((∀ name ∈ names, (told name).isCompleted = true) ∧ r.forecastSerial view outcome config previous done names =
      .ended (done ++ (names.map told).filterMap Verdict.result?) none) ∨
    ∃ front error, front <+: names ∧ (∃ name ∈ names, (told name).isCompleted = false) ∧
      r.forecastSerial view outcome config previous done names =
        .ended (done ++ (front.map told).filterMap Verdict.result?) (some error) := by
  induction names generalizing done with
  | nil => exact Or.inl ⟨by simp,by simp [forecastSerial]⟩
  | cons name names ih =>
    unfold forecastSerial
    rw [fixed]
    cases hv : told name with
    | completed x =>
      obtain ⟨hc,hr⟩ | ⟨front,error,hf,⟨other,ho,hc⟩,hr⟩ := ih (done ++ [x])
      · exact Or.inl ⟨by simpa [hv,Verdict.isCompleted] using hc,by simp [hr,hv,Verdict.result?]⟩
      · refine Or.inr ⟨name :: front,error,List.cons_prefix_cons.mpr ⟨rfl,hf⟩,
          ⟨other,List.mem_cons_of_mem _ ho,hc⟩,?_⟩
        simp [hr,hv,Verdict.result?]
    -- the attempt that ends the stage leaves no result in it
    | failed error result => exact Or.inr ⟨[],error,List.nil_prefix,⟨name,by simp,by rw [hv]; rfl⟩,by simp⟩
    | crashed text => exact absurd hv (unbroken name text)

namespace Engine

/-- A stage run serially and the same stage run in parallel, each in its own time, agree on whether there is an
error. Without one they find the same results, the serial stage in the order of its entries; in any case
what the serial one finds is among what the parallel one finds. -/
theorem serial_parallel_agree {e₁ : Engine σ₁} {e₂ : Engine σ₂} {outcome : String → ScanConfig → Ending}
    (registry : e₁.registry = e₂.registry) (predictable₁ : e₁.Predictable ScanConfig.alone outcome)
    (predictable₂ : e₂.Predictable ScanConfig.alone outcome) (safe : e₁.registry.VerifiesSafely) (p : Pipeline)
    (timeout : Duration) (stage : Stage) (previous : List ScanResult) (index now₁ now₂ : Nat) (memory₁ : σ₁)
    (memory₂ : σ₂) :
    ∃ serial parallel error₁ error₂,
      (e₁.runSerial (p.configFor timeout stage) previous [] stage.scanners now₁ memory₁).verdict =
        .ended serial error₁ ∧
      (e₂.runParallel index stage.name (fun name => p.configFor timeout stage name previous) stage.scanners now₂
        memory₂).verdict = .ended parallel error₂ ∧
      (error₁ = none ↔ error₂ = none) ∧
      (error₁ = none → (serial.map ScanResult.timeless).Perm (parallel.map ScanResult.timeless) ∧
        serial.map (·.scanner) = stage.scanners) ∧
      (serial.map ScanResult.timeless).Subperm (parallel.map ScanResult.timeless) := by
  -- what each entry comes to, whatever was found before
  obtain ⟨told,ht⟩ : ∃ told : String → Verdict, told = fun name =>
    e₁.registry.forecast ScanConfig.alone outcome (p.configFor timeout stage name previous) := ⟨_,rfl⟩
  have fixed (name : String) (parents : List ScanResult) :
      e₁.registry.forecast ScanConfig.alone outcome (p.configFor timeout stage name parents) = told name := by
    rw [ht]
    exact Registry.forecast_configFor_congr rfl
  have unbroken (name text : String) : told name ≠ .crashed text := by
    rw [ht]
    exact Registry.forecast_ne_crashed safe _ text
  have serial := predictable₁.verdict_runSerial (fun _ => rfl) p timeout stage previous [] stage.scanners now₁
    memory₁
  have perm := predictable₂.perm_found_arrived index stage.name
    (fun name => p.configFor timeout stage name previous) stage.scanners now₂ memory₂
  have error := predictable₂.error_arrived_eq_none_iff index stage.name
    (fun name => p.configFor timeout stage name previous) stage.scanners now₂ memory₂
  simp only [← registry,fixed] at perm error
  cases hv : (e₁.runSerial (p.configFor timeout stage) previous [] stage.scanners now₁ memory₁).verdict with
  | crashed text => exact absurd hv (e₁.runSerial_ne_crashed safe _ _ _ _ _ _ text)
  | ended found cause =>
    refine ⟨found,_,cause,_,rfl,e₂.runParallel_verdict ..,?_⟩
    rw [hv,List.map_nil] at serial
    obtain ⟨hc,hr⟩ | ⟨front,first,hf,⟨name,hn,hc⟩,hr⟩ := Registry.forecastSerial_cases fixed unbroken
      (previous.map ScanResult.timeless) [] stage.scanners
    · have he := error.mpr hc
      obtain ⟨hm,rfl⟩ := StageVerdict.ended.inj (serial.trans hr)
      rw [hm,List.nil_append]
      refine ⟨by simp [he],fun _ => ⟨perm.symm,?_⟩,perm.symm.subperm⟩
      exact (serial_account hv).scanners_eq fun name parents => p.tool_configFor timeout stage name parents
    · have he : _ ≠ none := fun h => by
        rw [error.mp h name hn] at hc
        cases hc
      obtain ⟨hm,rfl⟩ := StageVerdict.ended.inj (serial.trans hr)
      rw [hm,List.nil_append]
      refine ⟨by simp [he],nofun,?_⟩
      exact ((hf.sublist.map told).filterMap _).subperm.trans perm.symm.subperm

/-- An entry in the middle fails and the last is not known. -/
def owners : Stage where
  name := "owners"
  scanners := ["dns","dns","whois","dns","nmap"]

theorem serial_parallel_agree_owners :
    halfFailing.registry = inTurn.registry ∧
    halfFailing.Predictable ScanConfig.alone halfFailingOutcome ∧
    inTurn.Predictable ScanConfig.alone halfFailingOutcome ∧ halfFailing.registry.VerifiesSafely ∧
    ∃ serial parallel error₁ error₂,
      (halfFailing.runSerial (Pipeline.configFor { name := "audit" } .zero owners) [] [] owners.scanners 0
        ()).verdict = .ended serial error₁ ∧
      (inTurn.runParallel 0 owners.name (fun name => Pipeline.configFor { name := "audit" } .zero owners name [])
        owners.scanners 5 ()).verdict = .ended parallel error₂ ∧
      error₁ = some (.scanFailed "whois" "refused") ∧ error₂ ≠ none ∧
      serial.map (·.scanner) = ["dns","dns"] ∧ parallel.map (·.scanner) = ["dns","dns","whois","dns"] ∧
      (serial.map ScanResult.timeless).Subperm (parallel.map ScanResult.timeless) := by
  have registry : halfFailing.registry = inTurn.registry := rfl
  have predictable₁ := predictable_halfFailing ScanConfig.alone halfFailing.arrival
  have predictable₂ := predictable_halfFailing ScanConfig.alone inTurn.arrival
  obtain ⟨serial,parallel,error₁,error₂,hs,hp,errors,_,contained⟩ := serial_parallel_agree registry predictable₁
    predictable₂ verifiesSafely_halfFailing { name := "audit" } .zero owners [] 0 0 5 () ()
  refine ⟨registry,predictable₁,predictable₂,verifiesSafely_halfFailing,serial,parallel,error₁,error₂,hs,hp,?_⟩
  obtain ⟨rfl,rfl⟩ := StageVerdict.ended.inj hs
  obtain ⟨rfl,_⟩ := StageVerdict.ended.inj hp
  exact ⟨rfl,fun h => (nomatch errors.mpr h),rfl,rfl,contained⟩

end Engine
end Recon
