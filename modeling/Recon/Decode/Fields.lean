import Recon.Decode.Basic

/-! Records. A record is read from a table, whose entries may come in any order and with strangers among
them, or from a list of its fields in order. Every part of a record reports its fault with the place of
the entry at fault, and the fault of the earliest entry is that of the record. -/
namespace Recon

/-- The result of reading a part of a table: data, or a fault with the index of its entry. -/
abbrev Placed (α : Type) := Except (Nat × Fault) α

/-- Both results, or the earlier of the faults. -/
def Placed.both {α β : Type} : Placed α → Placed β → Placed (α × β)
  | .ok a,.ok b => .ok (a,b)
  | .error e,.ok _ => .error e
  | .ok _,.error e => .error e
  | .error e,.error e' => .error (if e'.1 < e.1 then e' else e)

/-- A reader for some fields of a record. -/
structure Fields (α : Type) where
  names : List String
  ofTable : List (String × Value) → Placed α
  /-- Takes as many items from the front as there are fields. -/
  ofItems : List Value → Decoded (α × List Value)

namespace Fields

variable {α β : Type}

/-- The entries with one of the names, each with its index. -/
def occurrences (names : List String) : Nat → List (String × Value) → List (Nat × Value)
  | _,[] => []
  | i,(key,v) :: es =>
    if names.contains key then (i,v) :: occurrences names (i + 1) es else occurrences names (i + 1) es

/-- A field under any of the names; `absent` says what its absence means. -/
def named (names : List String) (d : Value → Decoded α) (absent : Decoded α) : Fields α where
  names := names
  ofTable es :=
    match occurrences names 0 es with
    | [] => absent.mapError fun f => (es.length,f)
    | (i,v) :: more =>
      match d v,more with
      | .error f,_ => .error (i,f)
      | .ok a,[] => .ok a
      | .ok _,(j,_) :: _ => .error (j,.mismatch)
  ofItems
    | [] => absent.map fun a => (a,[])
    | v :: vs => (d v).map fun a => (a,vs)

def required (name : String) (d : Value → Decoded α) : Fields α := named [name] d (.error .mismatch)

def withDefault (name : String) (d : Value → Decoded α) (default : α) : Fields α :=
  named [name] d (.ok default)

/-- The fields of `f` and then those of `g`. -/
def and (f : Fields α) (g : Fields β) : Fields (α × β) where
  names := f.names ++ g.names
  ofTable es := Placed.both (f.ofTable es) (g.ofTable es)
  ofItems vs :=
    match f.ofItems vs with
    | .error e => .error e
    | .ok (a,vs) =>
      match g.ofItems vs with
      | .error e => .error e
      | .ok (b,vs) => .ok ((a,b),vs)

def map (h : α → β) (f : Fields α) : Fields β where
  names := f.names
  ofTable es := (f.ofTable es).map h
  ofItems vs := (f.ofItems vs).map fun (a,vs) => (h a,vs)

/-- Entries under other names only need to be well-formed and to have a legible key. -/
def strangers (names : List String) : Nat → List (String × Value) → Placed Unit
  | _,[] => .ok ()
  | i,(key,v) :: es =>
    let fine := names.contains key || match v with
      | .keyless _ => false
      | v => v.isWhole
    if fine then strangers names (i + 1) es else .error (i,.mismatch)

/-- The record, from a table or from a list. -/
def decode (format : Format) (f : Fields α) : Value → Decoded α
  | .table es =>
    match Placed.both (f.ofTable es) (strangers f.names 0 es) with
    | .error (_,fault) => .error fault
    | .ok (a,_) => .ok a
  | .list vs =>
    match f.ofItems vs with
    | .error fault => .error fault
    | .ok (a,rest) => if format.surplus || rest.isEmpty then .ok a else .error .mismatch
  | _ => .error .mismatch

end Fields
end Recon
