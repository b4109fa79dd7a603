import Recon.Dict
import Recon.Value

/-! Tables while they are being filled. A table that was only opened on the way to another one is
implicit and may still be defined; one that came from a dotted key may only be filled by dotted keys. -/
namespace Recon.Toml

inductive Node where
  | value (v : Value)
  | table (implicit dotted : Bool) (entries : List (String × Node))
  /-- A list of tables, of which the last is being filled. -/
  | tables (items : List (List (String × Node)))

abbrev Entries := List (String × Node)

/-- Fills the table at a path, opening implicit tables on the way; `dotted` says that the path is part of
a dotted key. -/
def fillAt (dotted : Bool) (fill : (isDotted : Bool) → Entries → Option Entries) :
    List String → (isDotted : Bool) → Entries → Option Entries
  | [],isDotted,entries => fill isDotted entries
  | k :: path,_,entries =>
    match lookup? k entries with
    | none => (fillAt dotted fill path dotted []).map fun inner => entries ++ [(k,.table true dotted inner)]
    | some (.value _) => none
    | some (.table implicit isDotted inner) =>
      if dotted && !implicit then none
      else (fillAt dotted fill path isDotted inner).map fun inner =>
        assign k (.table implicit isDotted inner) entries
    | some (.tables items) =>
      match items.getLast? with
      | none => none
      | some last => (fillAt dotted fill path false last).map fun last =>
          assign k (.tables (items.dropLast ++ [last])) entries

/-- Adds a value under a key that is not taken. -/
def insertKey (path : List String) (key : String) (v : Value) (entries : Entries) : Option Entries :=
  fillAt true (fun isDotted entries =>
    if isDotted == path.isEmpty || (lookup? key entries).isSome then none
    else some (entries ++ [(key,.value v)])) path false entries

mutual

def Node.toValue : Node → Value
  | .value v => v
  | .table _ _ entries => .table (entriesToValues entries)
  | .tables items => .list (itemsToValues items)

def entriesToValues : List (String × Node) → List (String × Value)
  | [] => []
  | (k,n) :: rest => (k,n.toValue) :: entriesToValues rest

def itemsToValues : List (List (String × Node)) → List Value
  | [] => []
  | entries :: rest => .table (entriesToValues entries) :: itemsToValues rest

end

/-- A table written between braces. -/
def inlineTable? : List ((List String × String) × Value) → Entries → Option Value
  | [],entries => some (.table (entriesToValues entries))
  | ((path,key),v) :: rest,entries => (insertKey path key v entries).bind (inlineTable? rest)

end Recon.Toml
