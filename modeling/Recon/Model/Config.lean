import Recon.Dict
import Recon.Model.Result

/-! What a scanner is told: a project, a target, options and the results of earlier stages. -/
namespace Recon

/-- The option that names the scanner to run. -/
def toolOption : String := "tool"

structure ScanConfig where
  projectId : UInt64
  target : String
  options : Dict String
  /-- Zero leaves the choice to the scanner. -/
  timeout : Duration
  parents : List ScanResult
deriving DecidableEq

namespace ScanConfig

def create (projectId : UInt64) (target : String) : ScanConfig := ⟨projectId,target,.empty,.zero,[]⟩

def withOption (c : ScanConfig) (key value : String) : ScanConfig :=
  { c with options := c.options.insert key value }

def withTool (c : ScanConfig) (name : String) : ScanConfig := c.withOption toolOption name

def withTimeout (c : ScanConfig) (timeout : Duration) : ScanConfig := { c with timeout := timeout }

def withParents (c : ScanConfig) (parents : List ScanResult) : ScanConfig := { c with parents := parents }

/-- The scanner to run. -/
def tool (c : ScanConfig) : Option String := c.options.get? toolOption

/-- An option with an empty value counts as absent. -/
def option (c : ScanConfig) (key : String) : Option String := (c.options.get? key).filter (· != "")

def flag (c : ScanConfig) (key : String) : Bool := c.option key == some "true"

/-- Results of earlier stages in a category, in order. -/
def parentsOf (c : ScanConfig) (category : Category) : List ScanResult :=
  c.parents.filter (·.category == category)

@[simp] theorem tool_withTool (c : ScanConfig) (name : String) : (c.withTool name).tool = some name := by
  simp [tool,withTool,withOption]

/-- The checks that every scanner makes: a project other than zero and a target that is not blank. -/
def checkBase (c : ScanConfig) : Except ScanError Unit :=
  if c.projectId = 0 then .error (.invalidProjectId c.projectId)
  else if (Text.trim c.target.toList).isEmpty then .error (.invalidTarget c.target)
  else .ok ()

end ScanConfig
end Recon
