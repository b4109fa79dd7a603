import Recon.Cli.Arguments
import Recon.Cli.Host
import Recon.Json.Printer
import Recon.Model.Template
import Recon.Tool.Adapter

/-! A whole run of the program: what it prints, how it ends and what it did on the way. Results are
printed whether or not the run fails. -/
namespace Recon.Cli

structure Run (σ : Type) where
  printed : Option Value
  conclusion : Except RunError Unit
  events : List Event
  warnings : List Warning
  memory : σ

/-- The program's surroundings. -/
structure Surroundings (σ : Type) where
  host : Host
  world : World σ
  arrival : Arrival σ

namespace Surroundings

variable {σ : Type}

/-- The tools as scanners, with the programs that the settings name. -/
def registry (s : Surroundings σ) (settings : Settings) : Registry :=
  (Registry.empty.registerAll (Adapter.scanners settings.tools s.host.isProgram)).1

/-- The scanners that can be used, by category. -/
def toolTable (s : Surroundings σ) (settings : Settings) : Value :=
  .table ((s.registry settings).byCategory.map fun (category,scanners) =>
    (category.name,.list (scanners.map fun i =>
      .table [("name",.text i.name),("category",i.category.encode),("available",.bool i.available)])))

/-- A run that starts nothing. -/
def quiet (printed : Option Value) (conclusion : Except RunError Unit) (memory : σ) : Run σ :=
  ⟨printed,conclusion,[],[],memory⟩

/-- The pipeline that is asked for, bound to its target and under the settings. -/
def pipeline (s : Surroundings σ) (settings : Settings) (r : PipelineRequest) : Except RunError Pipeline :=
  let found := match r.source with
    | .file path => (Pipeline.ofFile s.host path).map (Pipeline.forTarget · r.projectId r.target)
    | .template name => (Template.bind name r.projectId r.target).mapError .scan
  found.map settings.pipeline.apply

def runPipeline (s : Surroundings σ) (settings : Settings) (r : PipelineRequest) (memory : σ) : Run σ :=
  match s.pipeline settings r with
  | .error e => quiet none (.error e) memory
  | .ok p =>
    let engine : Engine σ := ⟨s.registry settings,s.world,s.arrival⟩
    let run := engine.runPipeline settings.pipeline.policy p 0 memory
    let results (rs : List ScanResult) : Option Value := some (.list (rs.map ScanResult.encode))
    let (printed,conclusion) : Option Value × Except RunError Unit := match run.verdict with
      | .finished rs => (results rs,.ok ())
      | .stopped e rs => (results rs,.error (.stopped p.name e))
      | .crashed text => (none,.error (.crashed text))
    ⟨printed,conclusion,run.events,run.warnings,run.memory⟩

def runScan (s : Surroundings σ) (settings : Settings) (r : ScanRequest) (memory : σ) : Run σ :=
  match r.config with
  | .error e => quiet none (.error (.scan e)) memory
  | .ok config =>
    let a := (s.registry settings).scan s.world config 0 memory
    let (printed,conclusion) : Option Value × Except RunError Unit := match a.verdict with
      | .completed result => (some result.encode,.ok ())
      | .failed e result => (result.map ScanResult.encode,.error (.scan e))
      | .crashed text => (none,.error (.crashed text))
    ⟨printed,conclusion,a.events,a.warnings,a.memory⟩

def runTask (s : Surroundings σ) (settings : Settings) (task : Task) (memory : σ) : Run σ :=
  match task with
  | .listTools => quiet (some (s.toolTable settings)) (.ok ()) memory
  | .listTemplates => quiet (some (.texts Template.names)) (.ok ()) memory
  | .pipeline request => s.runPipeline settings request memory
  | .scan request => s.runScan settings request memory

/-- Loads the settings and does what is asked for. -/
def run (s : Surroundings σ) (i : Invocation) (memory : σ) : Run σ :=
  match Settings.load s.host i.settingsFile with
  | .error e => quiet none (.error e) memory
  | .ok settings => s.runTask settings i.task memory

end Surroundings

/-- The files that an invocation may read. -/
def Invocation.files (home : Option String) (i : Invocation) : List String :=
  let settings := match i.settingsFile with
    | some path => [path]
    | none => (home.map userSettingsPath).toList ++ [systemSettingsPath]
  match i.task with
  | .pipeline ⟨.file path,_,_⟩ => settings ++ [path]
  | _ => settings

/-- The files that a process with these words may read. -/
def filesOf (home settingsFile : Option String) (words : List String) : List String :=
  match readArguments settingsFile words with
  | .error _ => []
  | .ok i => i.files home

/-- What a process leaves behind. -/
structure Outcome where
  code : Nat
  stdout : String
  stderr : String
deriving DecidableEq, Repr

def usageText : String := "\n".intercalate [
  "Runs recon scanners and scan pipelines.",
  "",
  "Usage: reconctl [OPTIONS] <COMMAND>",
  "",
  "Commands:",
  "  tools      Prints the available tools grouped by category",
  "  pipelines  Prints the names of the predefined pipelines",
  "  pipeline   Runs a predefined pipeline or a pipeline from a file",
  "  scan       Runs a single tool",
  "  help       Print this message or the help of the given subcommand(s)",
  "",
  "Options:",
  "  -v, --verbose...       Print more details while running, twice for trace output",
  "  -c, --config <CONFIG>  Config file, defaults to the user and then the system config [env: RECONCTL_CONFIG=]",
  "  -h, --help             Print help",
  "  -V, --version          Print version",
  ""]

def versionText : String := "reconctl 0.1.0\n"

/-- What a refused command line leaves behind; only texts that were asked for are output proper. -/
def UsageError.outcome (e : UsageError) : Outcome :=
  match e with
  | .helpRequested => ⟨e.exitCode,usageText,""⟩
  | .versionRequested => ⟨e.exitCode,versionText,""⟩
  | _ => ⟨e.exitCode,"",usageText⟩

/-- The name that messages begin with. -/
def programName : String := "reconctl"

/-- The printed tree on lines of its own, and the message of a run that failed. -/
def Run.outcome {σ : Type} (r : Run σ) : Outcome :=
  let stdout := (r.printed.map fun v => String.ofList (Json.pretty v ++ ['\n'])).getD ""
  match r.conclusion with
  | .ok () => ⟨0,stdout,""⟩
  | .error e => ⟨e.exitCode,stdout,programName ++ ": " ++ e.message ++ "\n"⟩

/-- A process with these words on its command line. -/
def Surroundings.process {σ : Type} (s : Surroundings σ) (words : List String) (memory : σ) : Outcome × σ :=
  match readArguments s.host.settingsFile words with
  | .error e => (e.outcome,memory)
  | .ok i =>
    let r := s.run i memory
    (r.outcome,r.memory)

end Recon.Cli
