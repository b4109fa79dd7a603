import Recon.Text.Lines

/-! The kinds of artifact that scanners look for. -/
namespace Recon

inductive Category where
  | subdomain | port | service | webTech | webPath | vulnerability
deriving DecidableEq, Repr, Inhabited

namespace Category

/-- Every category, in the order in which they are listed. -/
def all : List Category := [.subdomain,.port,.service,.webTech,.webPath,.vulnerability]

theorem mem_all (c : Category) : c ∈ all := by cases c <;> decide

def name : Category → String
  | .subdomain => "subdomain"
  | .port => "port"
  | .service => "service"
  | .webTech => "webtech"
  | .webPath => "webpath"
  | .vulnerability => "vulnerability"

def ofName? (s : String) : Option Category := all.find? (·.name == s)

@[simp] theorem ofName?_name (c : Category) : ofName? c.name = some c := by cases c <;> rfl

/-- The category named by a text, whatever its letter case and the blanks around it. -/
def parse? (s : String) : Option Category :=
  ofName? (String.ofList ((Text.trim s.toList).map Char.toLower))

end Category
end Recon
