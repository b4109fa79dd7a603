import Recon.Toml.Number
import Recon.Toml.Table

/-! Reading a TOML text: first into statements, line by line, and then into one table. -/
namespace Recon.Toml

/-- Items of a list after its opening bracket, up to the closing one. -/
def items? (value? : List Char → Read Value) : Nat → List Char → Read (List Value)
  | 0,_ => none
  | fuel + 1,cs =>
    match skipBlank cs with
    | none => none
    | some (']' :: cs) => some ([],cs)
    | some cs =>
      (value? cs).bind fun (v,cs) =>
        match skipBlank cs with
        | some (',' :: cs) => (items? value? fuel cs).map fun (vs,cs) => (v :: vs,cs)
        | some (']' :: cs) => some ([v],cs)
        | _ => none

/-- Entries of a table between braces, each followed by a comma and another or by the closing brace. -/
def entries? (value? : List Char → Read Value) : Nat → List Char → Read (List ((List String × String) × Value))
  | 0,_ => none
  | fuel + 1,cs =>
    (key? cs).bind fun (k,cs) =>
      match cs with
      | '=' :: cs =>
        (value? (skipGaps cs)).bind fun (v,cs) =>
          match skipGaps cs with
          | ',' :: cs => (entries? value? fuel cs).map fun (es,cs) => ((k,v) :: es,cs)
          | '\x7d' :: cs => some ([(k,v)],cs)
          | _ => none
      | _ => none

/-- A value with lists and tables nested up to a depth. -/
def value? : Nat → List Char → Read Value
  | depth,cs =>
    match cs with
    | '"' :: _ | '\x27' :: _ => (quoted? cs).map fun (t,cs) => (.text (String.ofList t),cs)
    | '[' :: cs =>
      match depth with
      | 0 => none
      | depth + 1 => (items? (value? depth) (cs.length + 1) cs).map fun (vs,cs) => (.list vs,cs)
    | '\x7b' :: cs =>
      match depth with
      | 0 => none
      | depth + 1 =>
        match skipGaps cs with
        | '\x7d' :: cs => some (.table [],cs)
        | cs => (entries? (value? depth) (cs.length + 1) cs).bind fun (es,cs) =>
            (inlineTable? es []).map (·,cs)
    | 't' :: 'r' :: 'u' :: 'e' :: cs => some (.bool true,cs)
    | 'f' :: 'a' :: 'l' :: 's' :: 'e' :: cs => some (.bool false,cs)
    | cs => number? cs

/-- One line of a document. -/
inductive Statement where
  | entry (path : List String) (key : String) (v : Value)
  | table (path : List String) (key : String)
  | tables (path : List String) (key : String)

/-- An entry up to the end of its line. -/
def assignment? (cs : List Char) : Read Statement :=
  (key? cs).bind fun ((path,key),cs) =>
    match cs with
    | '=' :: cs => (value? depthLimit (skipGaps cs)).bind fun (v,cs) =>
        (lineEnd? cs).map (.entry path key v,·)
    | _ => none

/-- A heading, after its opening bracket, up to the end of its line. -/
def heading? : List Char → Read Statement
  | '[' :: cs =>
    (key? cs).bind fun ((path,key),cs) =>
      match cs with
      | ']' :: ']' :: cs => (lineEnd? cs).map (.tables path key,·)
      | _ => none
  | cs =>
    (key? cs).bind fun ((path,key),cs) =>
      match cs with
      | ']' :: cs => (lineEnd? cs).map (.table path key,·)
      | _ => none

def statements? : Nat → List Char → Option (List Statement)
  | 0,_ => none
  | fuel + 1,cs =>
    match skipGaps cs with
    | [] => some []
    | '#' :: cs => (lineEnd? ('#' :: cs)).bind (statements? fuel)
    | '\n' :: cs => statements? fuel cs
    | '\x0d' :: cs => (newline? ('\x0d' :: cs)).bind (statements? fuel)
    | '[' :: cs => (heading? cs).bind fun (s,cs) => (statements? fuel cs).map (s :: ·)
    | cs => (assignment? cs).bind fun (s,cs) => (statements? fuel cs).map (s :: ·)

/-- A document while it is read: the tables that are complete, and the one whose entries follow. -/
structure Assembly where
  root : Entries := []
  current : Entries := []
  /-- Whether the current table is an item of a list, and where it belongs; none is the root. -/
  place : Option (Bool × List String × String) := none

/-- Adds a table to a list of tables. -/
def addItem (key : String) (item : List Entries) (entries : Entries) : Option Entries :=
  match lookup? key entries with
  | none => some (entries ++ [(key,.tables item)])
  | some (.tables items) => some (assign key (.tables (items ++ item)) entries)
  | some _ => none

/-- Puts the current table into its place. -/
def Assembly.close? (a : Assembly) : Option Entries :=
  match a.place with
  | none => some a.current
  | some (true,path,key) => fillAt false (fun _ => addItem key [a.current]) path false a.root
  | some (false,path,key) =>
    fillAt false (fun _ entries =>
      if (lookup? key entries).isSome then none else some (entries ++ [(key,.table false false a.current)]))
      path false a.root

/-- The entries of an implicit table, which a heading may define; nothing when there is no such table. -/
def implicitEntries? (key : String) (entries : Entries) : Option Entries :=
  match lookup? key entries with
  | none => some []
  | some (.table true false inner) => some inner
  | some _ => none

/-- The entries of the table at a path, opening nothing. -/
def entriesAt : List String → Entries → Entries
  | [],entries => entries
  | k :: path,entries =>
    match lookup? k entries with
    | some (.table _ _ inner) => entriesAt path inner
    | some (.tables items) => entriesAt path (items.getLast?.getD [])
    | _ => []

def Assembly.step? (a : Assembly) : Statement → Option Assembly
  | .entry path key v => (insertKey path key v a.current).map fun current => { a with current := current }
  | .table path key =>
    a.close?.bind fun root =>
      (implicitEntries? key (entriesAt path root)).bind fun inner =>
        (fillAt false (fun _ entries => some (entries.filter (·.1 != key))) path false root).map fun root =>
          ⟨root,inner,some (false,path,key)⟩
  | .tables path key =>
    a.close?.bind fun root =>
      (fillAt false (fun _ => addItem key []) path false root).map fun root =>
        ⟨root,[],some (true,path,key)⟩

def assemble? (a : Assembly) : List Statement → Option Entries
  | [] => a.close?
  | s :: rest => (a.step? s).bind fun a => assemble? a rest

/-- The table that a TOML text stands for. -/
def read? (cs : List Char) : Option Value :=
  let cs := match cs with
    | '\ufeff' :: cs => cs
    | cs => cs
  (statements? (cs.length + 1) cs).bind fun statements =>
    (assemble? {} statements).map fun entries => .table (entriesToValues entries)

end Recon.Toml
