import Recon.Engine.Attempt
import Recon.Model.Pipeline

/-! One stage of a pipeline. In a serial stage each scanner sees the results of those before it and the
first error ends the stage; in a parallel stage all run at once and their results come in the order in
which they arrive. -/
namespace Recon

/-- Scanners that have to have completed and have not, in the order of the list. -/
def missingDependencies (dependsOn : List String) (results : List ScanResult) : List String :=
  dependsOn.filter fun name => !results.any fun r => r.isCompleted && r.scanner == name

def dependenciesMet (dependsOn : List String) (results : List ScanResult) : Bool :=
  (missingDependencies dependsOn results).isEmpty

/-- The order in which the attempts of a parallel stage arrive. Every attempt arrives once. -/
structure Arrival (σ : Type) where
  order : (stage : Nat) → List (Attempt σ) → List (Attempt σ)
  perm : ∀ stage attempts, (order stage attempts).Perm attempts

/-- What is over first arrives first; of what ends at one moment, what was started first. -/
def Arrival.byFinish (σ : Type) : Arrival σ where
  order _ attempts := attempts.mergeSort fun a b => decide (a.finish ≤ b.finish)
  perm _ attempts := List.mergeSort_perm attempts _

/-- Everything that a run of a pipeline depends on. -/
structure Engine (σ : Type) where
  registry : Registry
  world : World σ
  arrival : Arrival σ

/-- The configuration of one scanner of a stage. -/
def Pipeline.configFor (p : Pipeline) (timeout : Duration) (stage : Stage) (scanner : String)
    (parents : List ScanResult) : ScanConfig where
  projectId := p.projectId
  target := p.target
  options := stage.options.insert toolOption scanner
  timeout := timeout
  parents := parents

inductive StageVerdict where
  | ended (results : List ScanResult) (error : Option ScanError)
  | crashed (text : String)
deriving DecidableEq

structure StageRun (σ : Type) where
  verdict : StageVerdict
  events : List Event
  warnings : List Warning
  finish : Nat
  memory : σ

namespace Engine

variable {σ : Type}

/-- Runs the scanners one after another; `done` are the results of this stage so far. -/
def runSerial (e : Engine σ) (config : String → List ScanResult → ScanConfig) (previous done : List ScanResult) :
    List String → Nat → σ → StageRun σ
  | [],now,memory => ⟨.ended done none,[],[],now,memory⟩
  | name :: names,now,memory =>
    let a := e.registry.scan e.world (config name (previous ++ done)) now memory
    match a.verdict with
    | .completed result =>
      let r := e.runSerial config previous (done ++ [result]) names a.finish a.memory
      { r with events := a.events ++ r.events, warnings := a.warnings ++ r.warnings }
    | .failed error _ => ⟨.ended done (some error),a.events,a.warnings,a.finish,a.memory⟩
    | .crashed text => ⟨.crashed text,a.events,a.warnings,a.finish,a.memory⟩

/-- Starts every scanner at one moment; programs remember their starts in the order of the names. -/
def startAll (e : Engine σ) (config : String → ScanConfig) (now : Nat) :
    List String → σ → List (Attempt σ) × σ
  | [],memory => ([],memory)
  | name :: names,memory =>
    let a := e.registry.scan e.world (config name) now memory
    let (attempts,memory) := e.startAll config now names a.memory
    (a :: attempts,memory)

end Engine

namespace Attempt

variable {σ : Type}

/-- The result of an attempt, if there is one. -/
def result? (a : Attempt σ) : Option ScanResult :=
  match a.verdict with
  | .completed result => some result
  | .failed _ result => result
  | .crashed _ => none

def error? (a : Attempt σ) : Option ScanError :=
  match a.verdict with
  | .failed error _ => some error
  | .completed _ | .crashed _ => none

/-- A crash inside a task of its own counts as a failure of the stage. -/
def asTask (stage : String) (number : Nat) (a : Attempt σ) : Attempt σ :=
  match a.verdict with
  | .crashed text =>
    { a with verdict := .failed (.scanFailed stage
        ("task " ++ toString number ++ " panicked with message " ++ ScanError.quoted text)) none }
  | _ => a

end Attempt

namespace Engine

variable {σ : Type}

/-- When the last of the attempts is over. -/
def lastFinish (now : Nat) (attempts : List (Attempt σ)) : Nat :=
  attempts.foldl (fun t a => max t a.finish) now

/-- Runs the scanners all at once and waits for every one. -/
def runParallel (e : Engine σ) (index : Nat) (stage : String) (config : String → ScanConfig)
    (names : List String) (now : Nat) (memory : σ) : StageRun σ :=
  let (attempts,memory) := e.startAll config now names memory
  let arrived := e.arrival.order index (attempts.mapIdx fun i a => a.asTask stage i)
  { verdict := .ended (arrived.filterMap Attempt.result?) (arrived.findSome? Attempt.error?)
    events := attempts.flatMap (·.events)
    warnings := arrived.flatMap (·.warnings)
    finish := lastFinish now attempts
    memory := memory }

/-- Runs a stage after the results of earlier ones. -/
def runStage (e : Engine σ) (p : Pipeline) (timeout : Duration) (index : Nat) (stage : Stage)
    (previous : List ScanResult) (now : Nat) (memory : σ) : StageRun σ :=
  if stage.parallel then
    e.runParallel index stage.name (fun name => p.configFor timeout stage name previous) stage.scanners now memory
  else
    e.runSerial (p.configFor timeout stage) previous [] stage.scanners now memory

end Engine
end Recon
