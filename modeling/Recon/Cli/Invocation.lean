import Recon.Duration.Reader
import Recon.Model.Config
import Recon.Text.Lines

/-! What a command line asks for. -/
namespace Recon.Cli

/-- Where a pipeline comes from. -/
inductive PipelineSource where
  | template (name : String)
  | file (path : String)
deriving DecidableEq, Repr

structure PipelineRequest where
  source : PipelineSource
  projectId : UInt64
  target : String
deriving DecidableEq, Repr

structure ScanRequest where
  tool : String
  projectId : UInt64
  target : String
  /-- In the order in which they are given. -/
  options : List (String × String) := []
  timeout : Option String := none
deriving DecidableEq, Repr

inductive Task where
  | listTools
  | listTemplates
  | pipeline (request : PipelineRequest)
  | scan (request : ScanRequest)
deriving DecidableEq, Repr

structure Invocation where
  /-- How often more details were asked for. -/
  verbosity : Nat := 0
  settingsFile : Option String := none
  task : Task
deriving DecidableEq, Repr

/-- A key and a value around the first equals sign, without blanks around either; the key must not be
empty. -/
def readOption? (s : String) : Option (String × String) :=
  match Text.splitOnce '=' s.toList with
  | none => none
  | some (key,value) =>
    let key := Text.trim key
    if key.isEmpty then none else some (String.ofList key,String.ofList (Text.trim value))

/-- What is said about a text that is no option. -/
def optionMessage (s : String) : String := "expected key=value, got '" ++ s ++ "'"

def readTimeout (s : String) : Except ScanError Duration :=
  (Duration.read s.toList).mapError fun cause => .invalidTimeout (s ++ ": " ++ cause.message)

namespace ScanRequest

/-- The configuration with the options set in order over the name of the tool. -/
def base (r : ScanRequest) : ScanConfig :=
  r.options.foldl (fun c (key,value) => c.withOption key value)
    ((ScanConfig.create r.projectId r.target).withTool r.tool)

/-- The configuration that is asked for, unless its timeout cannot be read. -/
def config (r : ScanRequest) : Except ScanError ScanConfig :=
  match r.timeout with
  | none => .ok r.base
  | some s => (readTimeout s).map r.base.withTimeout

end ScanRequest
end Recon.Cli
