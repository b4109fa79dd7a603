import Recon.Engine.Job
import Recon.Model.Config

/-! Scanners by name. No two scanners of a registry share a name and no name is empty, so looking one up
is unambiguous; scanners whose tool is missing are kept, but neither listed nor given out. -/
namespace Recon

/-- What a scanner says to a configuration before a scan. -/
inductive Verification where
  | accepted
  | refused (error : ScanError)
  /-- The check itself crashes. -/
  | crashed (text : String)
deriving DecidableEq, Repr

def Verification.ofExcept : Except ScanError Unit → Verification
  | .ok _ => .accepted
  | .error e => .refused e

structure Scanner where
  name : String
  category : Category
  available : Bool
  verify : ScanConfig → Verification
  scan : ScanConfig → Job

/-- What is shown of a scanner. -/
structure ScannerInfo where
  name : String
  category : Category
  available : Bool
deriving DecidableEq, Repr

def Scanner.info (s : Scanner) : ScannerInfo := ⟨s.name,s.category,s.available⟩

structure Registry where
  scanners : List Scanner
  nodup : (scanners.map (·.name)).Nodup
  named : ∀ s ∈ scanners, s.name ≠ ""

namespace Registry

def empty : Registry := ⟨[],by simp,by simp⟩

def names (r : Registry) : List String := r.scanners.map (·.name)

/-- The first scanner under a name stays. -/
def register (r : Registry) (s : Scanner) : Except ScanError Registry :=
  if hs : s.name = "" then .error (.invalidConfig "scanner name must not be empty")
  else if h : s.name ∈ r.scanners.map (·.name) then .error (.scannerAlreadyExists s.name)
  else .ok {
    scanners := r.scanners ++ [s]
    nodup := by
      rw [List.map_append,List.nodup_append]
      refine ⟨r.nodup,by simp,?_⟩
      intro a ha b hb
      simp only [List.map_cons,List.map_nil,List.mem_singleton] at hb
      subst hb
      rintro rfl
      exact h ha
    named := by
      intro t ht
      rcases List.mem_append.1 ht with ht | ht
      · exact r.named t ht
      · rw [List.mem_singleton.1 ht]
        exact hs }

/-- Registers in order up to the first that is refused. -/
def registerAll (r : Registry) : List Scanner → Registry × Except ScanError Unit
  | [] => (r,.ok ())
  | s :: rest =>
    match r.register s with
    | .ok r => r.registerAll rest
    | .error e => (r,.error e)

def find? (r : Registry) (name : String) : Option Scanner := r.scanners.find? (·.name == name)

/-- The scanner of that name, if it can be used. -/
def get (r : Registry) (name : String) : Except ScanError Scanner :=
  match r.find? name with
  | none => .error (.scannerNotFound name)
  | some s => if s.available then .ok s else .error (.scannerNotAvailable name)

/-- Every scanner, by name. -/
def registered (r : Registry) : List Scanner := r.scanners.mergeSort fun a b => decide (a.name ≤ b.name)

/-- The scanners that can be used, by name. -/
def available (r : Registry) : List Scanner := r.registered.filter (·.available)

def ofCategory (r : Registry) (c : Category) : List Scanner := r.available.filter (·.category == c)

/-- The scanners that can be used, by category and then by name; empty categories are left out. -/
def byCategory (r : Registry) : List (Category × List ScannerInfo) :=
  (Category.all.map fun c => (c,(r.ofCategory c).map Scanner.info)).filter fun e => !e.2.isEmpty

def size (r : Registry) : Nat := r.scanners.length

end Registry
end Recon
