import Recon.Tool.Gobuster
import Recon.Tool.Httpx
import Recon.Tool.Nmap
import Recon.Tool.Nuclei
import Recon.Tool.Subfinder

/-! The tools that come with the library, as scanners. -/
namespace Recon

/-- A tool as a scanner: how it checks a configuration and what it does with it. -/
structure Adapter where
  tool : String → Tool
  check : ScanConfig → Except ScanError Unit
  scan : String → ScanConfig → Job

namespace Adapter

def name (a : Adapter) : String := (a.tool "").name

def category (a : Adapter) : Category := (a.tool "").category

/-- The tool started by its name. -/
def standard (a : Adapter) : Tool := a.tool a.name

/-- The tools in the order in which they are registered. -/
def all : List Adapter := [
  ⟨Subfinder.tool,Subfinder.check,Subfinder.scan⟩,⟨Nmap.tool,Nmap.check,Nmap.scan⟩,
  ⟨Httpx.tool,Httpx.check,Httpx.scan⟩,⟨Gobuster.tool,Gobuster.check,Gobuster.scan⟩,
  ⟨Nuclei.tool,Nuclei.check,Nuclei.scan⟩]

def find? (name : String) : Option Adapter := all.find? (·.name == name)

/-- The scanner that starts `program`. -/
def scanner (a : Adapter) (program : String) (available : Bool) : Scanner where
  name := a.name
  category := a.category
  available := available
  verify c := .ofExcept (a.check c)
  scan := a.scan program

/-- Every tool as a scanner; `exists` says which programs there are. -/
def scanners (paths : ToolPaths) (isProgram : String → Bool) : List Scanner :=
  all.map fun a => a.scanner (paths.program a.name) (isProgram (paths.program a.name))

end Adapter
end Recon
