import Recon.Value

/-! Writing a table of tables as TOML, a heading for each table. Texts are put between the quotes that
need the fewest escapes. -/
namespace Recon.Toml

/-- What decides how a text may be quoted. -/
structure Traits where
  /-- The longest runs of single and of double quotes. -/
  singles : Nat
  doubles : Nat
  /-- Control characters other than tabs and line feeds. -/
  control : Bool
  backslash : Bool
  newline : Bool
deriving DecidableEq, Repr

/-- The length of the longest run of a character, `current` being the length of the run so far. -/
def longestRun (c : Char) : (current : Nat) → List Char → Nat
  | current,[] => current
  | current,d :: cs => if d = c then longestRun c (current + 1) cs else max current (longestRun c 0 cs)

def isControl (c : Char) : Bool := (c.toNat < 32 && c != '\t' && c != '\n') || c.toNat == 127

def Traits.of (cs : List Char) : Traits where
  singles := longestRun '\x27' 0 cs
  doubles := longestRun '"' 0 cs
  control := cs.any isControl
  backslash := cs.contains '\\'
  newline := cs.contains '\n'

/-- The ways to quote a text. -/
inductive Quotes where
  | basic | literal | basicLines | literalLines
deriving DecidableEq, Repr

def Quotes.mark : Quotes → List Char
  | .basic => ['"']
  | .literal => ['\x27']
  | .basicLines => ['"','"','"']
  | .literalLines => ['\x27','\x27','\x27']

/-- A text between double quotes if nothing has to be escaped, otherwise as it stands between single
quotes or over several lines, and with escapes if nothing else will do. -/
def Traits.quotes (t : Traits) : Quotes :=
  if !t.control && !t.backslash && t.doubles = 0 && !t.newline then .basic
  else if !t.control && t.singles = 0 && !t.newline then .literal
  else if !t.control && !t.backslash && t.doubles ≤ 2 then .basicLines
  else if !t.control && t.singles ≤ 2 then .literalLines
  else if t.newline then .basicLines
  else .basic

/-- A key stays on one line. -/
def Traits.keyQuotes (t : Traits) : Quotes :=
  if !t.control && !t.backslash && t.doubles = 0 && !t.newline then .basic
  else if !t.control && t.singles = 0 && !t.newline then .literal
  else .basic

def hexDigit (n : Nat) : Char := if n < 10 then Char.ofNat (48 + n) else Char.ofNat (55 + n)

/-- Escapes for text between double quotes; `lines` says that line feeds stand for themselves, as do two
double quotes in a row, of which `run` have been seen. -/
def escaped (lines : Bool) : (run : Nat) → List Char → List Char
  | _,[] => []
  | run,'"' :: cs =>
    if lines && run < 2 then '"' :: escaped lines (run + 1) cs else '\\' :: '"' :: escaped lines 0 cs
  | _,c :: cs =>
    (match c with
      | '\x08' => ['\\','b']
      | '\t' => ['\\','t']
      | '\n' => if lines then ['\n'] else ['\\','n']
      | '\x0c' => ['\\','f']
      | '\x0d' => ['\\','r']
      | '\\' => ['\\','\\']
      | c => if isControl c then ['\\','u','0','0',hexDigit (c.toNat / 16),hexDigit (c.toNat % 16)] else [c])
      ++ escaped lines 0 cs

def between (quotes : Quotes) (cs : List Char) : List Char :=
  let start := match quotes with
    | .basicLines | .literalLines => if cs.contains '\n' then ['\n'] else []
    | .basic | .literal => []
  let body := match quotes with
    | .basic => escaped false 0 cs
    | .basicLines => escaped true 0 cs
    | .literal | .literalLines => cs
  quotes.mark ++ start ++ body ++ quotes.mark

def textLiteral (cs : List Char) : List Char := between (Traits.of cs).quotes cs

/-- Characters of a key without quotes. -/
def isBare (c : Char) : Bool := c.isAlphanum || c == '_' || c == '-'

def keyLiteral (cs : List Char) : List Char :=
  if !cs.isEmpty && cs.all isBare then cs else between (Traits.of cs).keyQuotes cs

/-- The entry of a table, if its value is written beside its key. -/
def entryLine (key : String) (v : Value) : Option (List Char) :=
  let line (literal : List Char) := keyLiteral key.toList ++ [' ','=',' '] ++ literal ++ ['\n']
  match v with
  | .bool true => some (line ['t','r','u','e'])
  | .bool false => some (line ['f','a','l','s','e'])
  | .text s => some (line (textLiteral s.toList))
  | _ => none

def headingLine (path : List String) : List Char :=
  '[' :: ((path.map fun key => keyLiteral key.toList).intersperse ['.']).flatten ++ [']','\n']

mutual

/-- The sections of a table, each headed by its path: its own lines first, then its inner tables. A table
that holds nothing but tables needs no heading. -/
def sections (path : List String) (entries : List (String × Value)) : List (List Char) :=
  let own := (entries.filterMap fun (key,v) => entryLine key v).flatten
  let inner := innerSections path entries
  if path.isEmpty then (if own.isEmpty then inner else own :: inner)
  else if own.isEmpty && !entries.isEmpty then inner
  else (headingLine path ++ own) :: inner

def innerSections (path : List String) : List (String × Value) → List (List Char)
  | [] => []
  | (key,.table es) :: entries => sections (path ++ [key]) es ++ innerSections path entries
  | _ :: entries => innerSections path entries

end

/-- A table of texts, truths and tables over several lines, with an empty line between sections. -/
def pretty : Value → List Char
  | .table entries => ((sections [] entries).intersperse ['\n']).flatten
  | _ => []

end Recon.Toml
