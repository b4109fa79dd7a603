import Recon.Engine.Stage

/-! A pipeline, stage by stage. A pipeline with a dependency that no earlier stage can meet is refused at
once; otherwise each stage starts when its dependencies have completed, and an error ends the pipeline
unless it continues on errors. -/
namespace Recon

/-- Which timeout the scans of a pipeline get. -/
inductive StageTimeout where
  | fixed (timeout : Duration)
  /-- That of the pipeline, zero if it has none. -/
  | ofPipeline
deriving DecidableEq, Repr

namespace StageTimeout

def standard : Duration := .minutes 30

instance : Inhabited StageTimeout := ⟨.fixed standard⟩

def resolve (t : StageTimeout) (p : Pipeline) : Duration :=
  match t with
  | .fixed timeout => timeout
  | .ofPipeline => p.timeout.getD .zero

end StageTimeout

/-- The first stage with dependencies that no earlier stage names, after the scanners `scheduled`. -/
def checkStages (scheduled : List String) : List Stage → Except ScanError Unit
  | [] => .ok ()
  | stage :: stages =>
    let missing := stage.dependsOn.filter fun name => !scheduled.contains name
    if missing.isEmpty then checkStages (scheduled ++ stage.scanners) stages
    else .error (.dependencyNotMet stage.name missing)

/-- A dependency must name a scanner of an earlier stage. -/
def Pipeline.check (p : Pipeline) : Except ScanError Unit := checkStages [] p.stages

inductive PipelineVerdict where
  | finished (results : List ScanResult)
  /-- With the results up to the error. -/
  | stopped (error : ScanError) (results : List ScanResult)
  | crashed (text : String)
deriving DecidableEq

structure PipelineRun (σ : Type) where
  verdict : PipelineVerdict
  events : List Event
  warnings : List Warning
  finish : Nat
  memory : σ

/-- The message of a pipeline that stopped. -/
def Pipeline.stopMessage (name : String) (error : ScanError) : String :=
  "pipeline '" ++ name ++ "' stopped: " ++ error.message

namespace Engine

variable {σ : Type}

/-- Runs the stages from `index` on after the results of earlier ones. -/
def runStages (e : Engine σ) (p : Pipeline) (timeout : Duration) :
    List Stage → Nat → List ScanResult → Nat → σ → PipelineRun σ
  | [],_,results,now,memory => ⟨.finished results,[],[],now,memory⟩
  | stage :: stages,index,results,now,memory =>
    let missing := missingDependencies stage.dependsOn results
    if !missing.isEmpty then ⟨.stopped (.dependencyNotMet stage.name missing) results,[],[],now,memory⟩
    else
      let s := e.runStage p timeout index stage results now memory
      match s.verdict with
      | .crashed text => ⟨.crashed text,s.events,s.warnings,s.finish,s.memory⟩
      | .ended found error =>
        let goOn (warnings : List Warning) : PipelineRun σ :=
          let r := e.runStages p timeout stages (index + 1) (results ++ found) s.finish s.memory
          { r with events := s.events ++ r.events, warnings := s.warnings ++ warnings ++ r.warnings }
        match error with
        | none => goOn []
        | some error =>
          if p.continueOnError then goOn [.stageFailed p.name stage.name error]
          else ⟨.stopped (.stageFailed stage.name error) (results ++ found),s.events,s.warnings,s.finish,
            s.memory⟩

/-- Runs a pipeline. -/
def runPipeline (e : Engine σ) (policy : StageTimeout) (p : Pipeline) (now : Nat) (memory : σ) :
    PipelineRun σ :=
  match p.check with
  | .error error => ⟨.stopped error [],[],[],now,memory⟩
  | .ok () => e.runStages p (policy.resolve p) p.stages 0 [] now memory

end Engine
end Recon
