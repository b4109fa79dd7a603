import Recon.Binary64

/-! The tree that a document stands for, whatever notation it was written in. A reader keeps what it
could make out: a document that stops being well-formed has its tree up to that place, with `broken`
there. -/
namespace Recon

inductive Value where
  | null
  | bool (b : Bool)
  | int (i : Int)
  | float (x : Binary64)
  | text (s : String)
  | list (items : List Value)
  | table (entries : List (String × Value))
  /-- Well-formed, but no value: half a surrogate pair, or a number beyond every double. -/
  | illegible
  /-- The value of a table's entry whose key is illegible. -/
  | keyless (v : Value)
  /-- The document stops being well-formed here. -/
  | broken
deriving Inhabited

namespace Value

mutual

/-- Whether the document is well-formed throughout the value. -/
def isWhole : Value → Bool
  | .broken => false
  | .keyless v => isWhole v
  | .list items => areWhole items
  | .table entries => entriesAreWhole entries
  | _ => true

def areWhole : List Value → Bool
  | [] => true
  | v :: vs => isWhole v && areWhole vs

def entriesAreWhole : List (String × Value) → Bool
  | [] => true
  | (_,v) :: es => isWhole v && entriesAreWhole es

end

def ofNat (n : Nat) : Value := .int n

def texts (items : List String) : Value := .list (items.map .text)

/-- The entry of a table that is only written when there is something to write. -/
def present (name : String) : Option Value → List (String × Value)
  | none => []
  | some v => [(name,v)]

end Value

/-- A value and whether more than blanks follow it. -/
structure Document where
  root : Value
  trailing : Bool

end Recon
