import Recon.Proofs.Cli.Interruption
import Recon.Proofs.Cli.Selection
import Recon.Proofs.Codec.Printed
import Recon.Proofs.Engine.Record

/-! What the program prints and how it ends. The result of a scan and the results of a pipeline are printed whether or
not the run fails, so that there are two reports of a failure: the printed results and the message with the exit code.
They never contradict each other. -/
namespace Recon.Cli

/-- One result, as it is printed. -/
def sheet (x : ScanResult) : String := String.ofList (Json.pretty x.encode ++ ['\n'])

/-- Results, as they are printed: one list. -/
def sheets (xs : List ScanResult) : String := String.ofList (Json.pretty (.list (xs.map ScanResult.encode)) ++ ['\n'])

/-- A failure, as it is told. -/
def notice (message : String) : String := programName ++ ": " ++ message ++ "\n"

lemma sheet_ne_empty (x : ScanResult) : sheet x ≠ "" := by
  intro h
  have chars := congrArg String.toList h
  simp [sheet] at chars

/-- A sheet tells the status, the error and whether there is data. -/
theorem agree_of_sheet {x y : ScanResult} (same : sheet x = sheet y) :
    x.status = y.status ∧ x.error = y.error ∧ (x.payload = none ↔ y.payload = none) := by
  have chars := congrArg String.toList same
  simp only [sheet,String.toList_ofList] at chars
  exact ScanResult.agree_of_print Json.indented_blank (List.append_cancel_right chars)

lemma unsuccessful_of_terminal {status : Status} (terminal : status.isTerminal = true) (h : status ≠ .completed) :
    status = .failed ∨ status = .timeout := by
  cases status with
  | failed => exact .inl rfl
  | timeout => exact .inr rfl
  | completed => exact absurd rfl h
  | pending | running => cases terminal

/-- The two reports of a scan: what is printed, and how the run ends. -/
structure Outcome.TellsScan (o : Outcome) (accepted : Prop) : Prop where
  ends : o.code = 0 ∨ o.code = 1
  shows : o.stdout = "" ∨ ∃ x, o.stdout = sheet x
  succeeded_iff : o.code = 0 ↔ ∃ x, o.stdout = sheet x ∧ x.status = .completed
  failed : ∀ x, o.code = 1 → o.stdout = sheet x → (x.status = .failed ∨ x.status = .timeout) ∧ x.payload = none ∧
    ∃ message, x.error = some message ∧ o.stderr = notice message
  silent_iff : o.stdout = "" ↔ ¬ accepted

/-- The two reports of a pipeline of that name: the results, and how the run ends. -/
inductive Outcome.TellsPipeline (o : Outcome) (name : String) (verdict : PipelineVerdict) (results : List ScanResult) :
    Prop
  | finished (ended : verdict = .finished results) (told : o = ⟨0,sheets results,""⟩)
  | stopped {error : ScanError} (ended : verdict = .stopped error results)
      (told : o = ⟨1,sheets results,notice ("pipeline '" ++ name ++ "' stopped: " ++ error.message)⟩)

namespace Surroundings

variable {σ : Type} {s : Surroundings σ} {settings : Settings} {memory : σ}

/-- A process does what its command line says, once it is read. -/
theorem process_run {words : List String} {i : Invocation} (read : readArguments s.host.settingsFile words = .ok i)
    (memory : σ) : (s.process words memory).1 = (s.run i memory).outcome ∧
      (s.process words memory).2 = (s.run i memory).memory := by
  simp only [process,read,and_self]

lemma run_eq {i : Invocation} (loaded : Settings.load s.host i.settingsFile = .ok settings) (memory : σ) :
    s.run i memory = s.runTask settings i.task memory := by
  simp only [run,loaded]

section Scan

variable {request : ScanRequest} {config : ScanConfig} (asked : request.config = .ok config)

include asked

lemma outcome_of_completed {x : ScanResult}
    (h : ((s.registry settings).scan s.world config 0 memory).verdict = .completed x) :
    (s.runScan settings request memory).outcome = ⟨0,sheet x,""⟩ := by
  unfold runScan
  simp only [asked,h]
  rfl

lemma outcome_of_failed {error : ScanError} {result : Option ScanResult}
    (h : ((s.registry settings).scan s.world config 0 memory).verdict = .failed error result) :
    (s.runScan settings request memory).outcome = ⟨1,(result.map sheet).getD "",notice error.message⟩ := by
  unfold runScan
  simp only [asked,h]
  cases result <;> rfl

/-- A scan that nobody accepts is not reported on the sheet, any other is. -/
theorem tellsScan :
    (s.runScan settings request memory).outcome.TellsScan ((s.registry settings).Accepts config) := by
  obtain ⟨accepted,x,hx,_,terminal,⟨hv,completed⟩ | ⟨error,hv,failed⟩⟩ |
      ⟨declined,_,⟨error,hv⟩ | ⟨t,ht,text,crashed,_⟩⟩ :=
    (s.registry settings).scan_result_cases s.world config 0 memory
  · rw [outcome_of_completed asked hv]
    have status : x.status = .completed := by simpa [ScanResult.isCompleted] using completed
    exact ⟨.inl rfl,.inr ⟨x,rfl⟩,iff_of_true rfl ⟨x,rfl,status⟩,fun _ failed => absurd failed Nat.zero_ne_one,
      iff_of_false (sheet_ne_empty x) (not_not_intro accepted)⟩
  · rw [outcome_of_failed asked hv]
    obtain ⟨t,_,_,records⟩ := Registry.records_of_result hx
    have status : x.status ≠ .completed := by simpa [ScanResult.isCompleted] using failed
    have message : x.error = some error.message := by
      rw [records.message,Attempt.error?_eq,hv]
      rfl
    have unfilled : x.payload = none := by simpa using mt records.completed_iff_payload.mpr status
    refine ⟨.inr rfl,.inr ⟨x,rfl⟩,iff_of_false Nat.one_ne_zero ?_,?_,
      iff_of_false (sheet_ne_empty x) (not_not_intro accepted)⟩
    · rintro ⟨y,same,completed⟩
      exact status ((agree_of_sheet same).1.trans completed)
    · intro y _ same
      obtain ⟨sameStatus,sameError,samePayload⟩ := agree_of_sheet same
      rw [← sameStatus,← sameError,← samePayload]
      exact ⟨unsuccessful_of_terminal terminal status,unfilled,_,message,rfl⟩
  · rw [outcome_of_failed asked hv]
    refine ⟨.inr rfl,.inl rfl,iff_of_false Nat.one_ne_zero ?_,?_,iff_of_true rfl declined⟩
    · rintro ⟨x,same,_⟩
      exact sheet_ne_empty x same.symm
    · intro x _ same
      exact absurd same.symm (sheet_ne_empty x)
  · exact absurd crashed (s.verifiesSafely_registry settings t ht config text)

end Scan

section Pipeline

variable {request : PipelineRequest} {p : Pipeline} (bound : s.pipeline settings request = .ok p)

/-- The run of the pipeline that was asked for. -/
def pipelineRun (s : Surroundings σ) (settings : Settings) (p : Pipeline) (memory : σ) : PipelineRun σ :=
  Engine.runPipeline ⟨s.registry settings,s.world,s.arrival⟩ settings.pipeline.policy p 0 memory

/-- The results of the stages that it started, in their order. -/
def pipelineResults (s : Surroundings σ) (settings : Settings) (p : Pipeline) (memory : σ) : List ScanResult :=
  accumulated (Engine.visited ⟨s.registry settings,s.world,s.arrival⟩ settings.pipeline.policy p 0 memory)

include bound in
/-- All that was found is printed, whether the pipeline comes to its end or is stopped. -/
theorem tellsPipeline (memory : σ) : (s.runPipeline settings request memory).outcome.TellsPipeline p.name
    (s.pipelineRun settings p memory).verdict (s.pipelineResults settings p memory) := by
  have handed : (s.pipelineRun settings p memory).verdict.results? = some (s.pipelineResults settings p memory) :=
    Engine.results_of_verifiesSafely (s.verifiesSafely_registry settings) settings.pipeline.policy p 0 memory
  unfold runPipeline
  simp only [bound]
  unfold pipelineRun at handed ⊢
  generalize Engine.runPipeline ⟨s.registry settings,s.world,s.arrival⟩ settings.pipeline.policy p 0 memory = run
    at handed ⊢
  cases hv : run.verdict with
  | finished results =>
    rw [hv] at handed
    obtain rfl : results = s.pipelineResults settings p memory := Option.some.inj handed
    exact .finished rfl rfl
  | stopped error results =>
    rw [hv] at handed
    obtain rfl : results = s.pipelineResults settings p memory := Option.some.inj handed
    exact .stopped rfl rfl
  | crashed text =>
    rw [hv] at handed
    cases handed

lemma exists_map_eq_ok_iff {ε α β : Type} {x : Except ε α} {f : α → β} :
    (∃ b, x.map f = .ok b) ↔ ∃ a, x = .ok a := by
  cases x with
  | error error => exact iff_of_false nofun nofun
  | ok a => exact iff_of_true ⟨f a,rfl⟩ ⟨a,rfl⟩

lemma exists_bind_iff {name target : String} {projectId : UInt64} :
    (∃ p, (Template.bind name projectId target).mapError RunError.scan = .ok p) ↔ name ∈ Template.names := by
  unfold Template.bind Template.names
  cases hf : Template.find? name with
  | none =>
    refine iff_of_false nofun fun known => ?_
    obtain ⟨p,hp,rfl⟩ := List.mem_map.mp known
    exact List.find?_eq_none.mp hf p hp (beq_self_eq_true p.name)
  | some p =>
    refine iff_of_true ⟨_,rfl⟩ (List.mem_map.mpr ⟨p,List.mem_of_find?_eq_some hf,?_⟩)
    simpa using List.find?_some hf

/-- There is a pipeline to run just if the file holds one or the template is known. -/
theorem exists_pipeline_iff (request : PipelineRequest) : (∃ p, s.pipeline settings request = .ok p) ↔
    (∃ path q, request.source = .file path ∧ Pipeline.ofFile s.host path = .ok q) ∨
      ∃ name ∈ Template.names, request.source = .template name := by
  unfold pipeline
  rw [exists_map_eq_ok_iff]
  cases hs : request.source with
  | file path =>
    simp only [exists_map_eq_ok_iff]
    constructor
    · rintro ⟨q,read⟩
      exact .inl ⟨path,q,rfl,read⟩
    · rintro (⟨_,q,⟨⟩,read⟩ | ⟨_,_,⟨⟩⟩)
      exact ⟨q,read⟩
  | template name =>
    simp only [exists_bind_iff]
    constructor
    · exact fun known => .inr ⟨name,known,rfl⟩
    · rintro (⟨_,_,⟨⟩,_⟩ | ⟨_,known,⟨⟩⟩)
      exact known

end Pipeline

/-- Once the command line and the settings are read, what is printed agrees with how the program ends. -/
theorem prints_as_it_ends (words : List String) (i : Invocation)
    (read : readArguments s.host.settingsFile words = .ok i)
    (loaded : Settings.load s.host i.settingsFile = .ok settings) (memory : σ) :
    (∀ request config, i.task = .scan request → request.config = .ok config →
      (s.process words memory).1.TellsScan ((s.registry settings).Accepts config)) ∧
    (∀ request, i.task = .pipeline request →
      (((∃ path q, request.source = .file path ∧ Pipeline.ofFile s.host path = .ok q) ∨
        ∃ name ∈ Template.names, request.source = .template name) ↔ ∃ p, s.pipeline settings request = .ok p) ∧
      ∀ p, s.pipeline settings request = .ok p → (s.process words memory).1.TellsPipeline p.name
        (s.pipelineRun settings p memory).verdict (s.pipelineResults settings p memory)) := by
  rw [(process_run read memory).1,run_eq loaded]
  constructor
  · intro request config asked accepted
    rw [asked]
    exact tellsScan accepted
  · intro request asked
    rw [asked]
    exact ⟨(exists_pipeline_iff request).symm,fun p bound => tellsPipeline bound memory⟩

def plainScan : ScanRequest := ⟨"nmap",1,"example.com",[],none⟩

/-- Where no program can be started, a scan prints a failure and ends with it, and a template prints what it found. -/
theorem prints_as_it_ends_bare :
    (∃ x message, (bare.process (scanWords "nmap" "1" "example.com" [] none) ()).1 = ⟨1,sheet x,notice message⟩ ∧
      x.payload = none ∧ x.error = some message) ∧
    ∃ p, (bare.process ["pipeline","quick","-p","1","-t","example.com"] ()).1.TellsPipeline "quick"
      (bare.pipelineRun {} p ()).verdict (bare.pipelineResults {} p ()) := by
  have read : readArguments bare.host.settingsFile (scanWords "nmap" "1" "example.com" [] none) =
      .ok { task := .scan plainScan } := readArguments_scanWords rfl .nil
  have scanned := (prints_as_it_ends _ _ read rfl ()).1 plainScan plainScan.base rfl rfl
  have accepted : (bare.registry {}).Accepts plainScan.base := ⟨_,rfl,rfl⟩
  have asked : readArguments bare.host.settingsFile ["pipeline","quick","-p","1","-t","example.com"] =
      .ok { task := .pipeline ⟨.template "quick",1,"example.com"⟩ } := rfl
  have piped := (prints_as_it_ends _ _ asked rfl ()).2 _ rfl
  constructor
  · obtain silent | ⟨x,shown⟩ := scanned.shows
    · exact absurd accepted (scanned.silent_iff.mp silent)
    · obtain ⟨_,unfilled,message,error,told⟩ := scanned.failed x rfl shown
      refine ⟨x,message,?_,unfilled,error⟩
      rw [← shown,← told]
      rfl
  · obtain ⟨p,bound⟩ := piped.1.mp (.inr ⟨"quick",by decide,rfl⟩)
    cases bound
    exact ⟨_,piped.2 _ rfl⟩

end Surroundings
end Recon.Cli
