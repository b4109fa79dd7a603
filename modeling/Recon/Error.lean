import Recon.Duration.Basic
import Recon.Text.Quoted

/-! What can go wrong in a scan, a pipeline or the choice of a scanner, each cause with the data that its
message names. -/
namespace Recon

inductive ScanError where
  | invalidConfig (reason : String)
  | invalidTarget (target : String)
  | invalidProjectId (id : UInt64)
  | invalidTimeout (reason : String)
  | scannerNotFound (name : String)
  | scannerNotAvailable (name : String)
  | scannerAlreadyExists (name : String)
  | noToolSpecified
  | scanTimeout (scanner : String) (timeout : Duration)
  | scanCancelled (scanner : String)
  | scanFailed (scanner reason : String)
  /-- The report of a tool cannot be read. -/
  | invalidResult (scanner reason : String)
  | pipelineInvalid (reason : String)
  | dependencyNotMet (stage : String) (missing : List String)
  | stageFailed (stage : String) (source : ScanError)
  | circularDependency (stages : List String)
  | conversionFailed (expected found : String)
  /-- A payload does not fit the category of its scanner. -/
  | invalidScanResult (scanner reason : String)
deriving DecidableEq, Repr, Inhabited

namespace ScanError

def quoted (s : String) : String := String.ofList (Text.quoted s.toList)

def quotedItems (items : List String) : String := String.ofList (Text.quotedItems (items.map String.toList))

def message : ScanError → String
  | invalidConfig reason => "invalid scan configuration: " ++ reason
  | invalidTarget target => "invalid scan target: " ++ quoted target
  | invalidProjectId id => "invalid project id: " ++ toString id.toNat
  | invalidTimeout reason => "invalid timeout: " ++ reason
  | scannerNotFound name => "scanner '" ++ name ++ "' not found"
  | scannerNotAvailable name => "scanner '" ++ name ++ "' is not available"
  | scannerAlreadyExists name => "scanner '" ++ name ++ "' is already registered"
  | noToolSpecified => "no tool specified, the `tool` option selects the scanner"
  | scanTimeout scanner timeout => scanner ++ " timed out after " ++ String.ofList timeout.display
  | scanCancelled scanner => scanner ++ " was cancelled"
  | scanFailed scanner reason => scanner ++ " failed: " ++ reason
  | invalidResult scanner reason => scanner ++ " returned unreadable output: " ++ reason
  | pipelineInvalid reason => "invalid pipeline: " ++ reason
  | dependencyNotMet stage missing =>
    "dependencies " ++ quotedItems missing ++ " of stage '" ++ stage ++ "' are not met"
  | stageFailed stage source => "stage '" ++ stage ++ "' failed: " ++ source.message
  | circularDependency stages => "circular dependency between stages " ++ quotedItems stages
  | conversionFailed expected found => "expected " ++ expected ++ " data but found " ++ found
  | invalidScanResult scanner reason => scanner ++ " produced invalid scan data: " ++ reason

end ScanError
end Recon
