import Recon.Dict
import Recon.Model.Result

/-! Scans in several stages against one target. -/
namespace Recon

/-- Scanners that are run together, one after another or all at once. -/
structure Stage where
  name : String
  scanners : List String
  options : Dict String := .empty
  parallel : Bool := false
  /-- Names of scanners that must have completed before. -/
  dependsOn : List String := []
deriving DecidableEq

structure Pipeline where
  name : String
  projectId : UInt64 := 0
  target : String := ""
  stages : List Stage := []
  /-- Whether a failing stage leaves the later ones running. -/
  continueOnError : Bool := false
  timeout : Option Duration := none
deriving DecidableEq

namespace Stage

def inParallel (s : Stage) : Stage := { s with parallel := true }

def after (s : Stage) (scanners : List String) : Stage := { s with dependsOn := s.dependsOn ++ scanners }

def withOption (s : Stage) (key value : String) : Stage := { s with options := s.options.insert key value }

def withOptions (s : Stage) (options : List (String × String)) : Stage :=
  { s with options := s.options.insertAll options }

end Stage

namespace Pipeline

def forTarget (p : Pipeline) (projectId : UInt64) (target : String) : Pipeline :=
  { p with projectId := projectId, target := target }

def withStage (p : Pipeline) (s : Stage) : Pipeline := { p with stages := p.stages ++ [s] }

def withContinueOnError (p : Pipeline) (b : Bool) : Pipeline := { p with continueOnError := b }

def withTimeout (p : Pipeline) (d : Duration) : Pipeline := { p with timeout := some d }

end Pipeline
end Recon
