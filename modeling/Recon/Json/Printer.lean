import Recon.Value

/-! Writing a tree as JSON, on one line or with two blanks of indentation for each level. -/
namespace Recon.Json

/-- One character inside quotes. -/
def quotedChar : Char → List Char
  | '"' => ['\\','"']
  | '\\' => ['\\','\\']
  | '\x08' => ['\\','b']
  | '\x0c' => ['\\','f']
  | '\n' => ['\\','n']
  | '\x0d' => ['\\','r']
  | '\t' => ['\\','t']
  | c =>
    if c.toNat < 16 then ['\\','u','0','0','0'] ++ Nat.toDigits 16 c.toNat
    else if c.toNat < 32 then ['\\','u','0','0'] ++ Nat.toDigits 16 c.toNat
    else [c]

def quoted (cs : List Char) : List Char := '"' :: cs.flatMap quotedChar ++ ['"']

def intText (i : Int) : List Char :=
  if i < 0 then '-' :: Text.decimal i.natAbs else Text.decimal i.natAbs

/-- How the parts of a list or table are set apart. -/
structure Layout where
  /-- What stands before an entry at a depth. -/
  lineBreak : Nat → List Char
  afterColon : List Char

def oneLine : Layout := ⟨fun _ => [],[]⟩

def indented : Layout := ⟨fun depth => '\n' :: List.replicate (2 * depth) ' ',[' ']⟩

mutual

def print (layout : Layout) (depth : Nat) : Value → List Char
  | .null | .illegible | .broken => ['n','u','l','l']
  | .bool true => ['t','r','u','e']
  | .bool false => ['f','a','l','s','e']
  | .int i => intText i
  | .float x => if x.isFinite then x.text else ['n','u','l','l']
  | .text s => quoted s.toList
  | .keyless v => print layout depth v
  | .list [] => ['[',']']
  | .list (v :: vs) =>
    '[' :: layout.lineBreak (depth + 1) ++ print layout (depth + 1) v ++ printItems layout (depth + 1) vs
      ++ layout.lineBreak depth ++ [']']
  | .table [] => ['\x7b','\x7d']
  | .table ((key,v) :: entries) =>
    '\x7b' :: layout.lineBreak (depth + 1) ++ printEntry layout (depth + 1) key v
      ++ printEntries layout (depth + 1) entries ++ layout.lineBreak depth ++ ['\x7d']

/-- Further items, each with a comma in front. -/
def printItems (layout : Layout) (depth : Nat) : List Value → List Char
  | [] => []
  | v :: vs => ',' :: layout.lineBreak depth ++ print layout depth v ++ printItems layout depth vs

def printEntry (layout : Layout) (depth : Nat) (key : String) (v : Value) : List Char :=
  quoted key.toList ++ ':' :: layout.afterColon ++ print layout depth v

def printEntries (layout : Layout) (depth : Nat) : List (String × Value) → List Char
  | [] => []
  | (key,v) :: entries =>
    ',' :: layout.lineBreak depth ++ printEntry layout depth key v ++ printEntries layout depth entries

end

/-- The tree on one line. -/
def compact (v : Value) : List Char := print oneLine 0 v

/-- The tree over several lines. -/
def pretty (v : Value) : List Char := print indented 0 v

end Recon.Json
