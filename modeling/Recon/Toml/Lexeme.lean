import Recon.Text.Decimal

/-! The smallest parts of a TOML text: blanks, comments, line ends, quoted texts and keys. Each reader
takes its part from the front and gives it with the rest. -/
namespace Recon.Toml

/-- A part of a text and what follows it. -/
abbrev Read (α : Type) := Option (α × List Char)

def isGap (c : Char) : Bool := c == ' ' || c == '\t'

def skipGaps (cs : List Char) : List Char := cs.dropWhile isGap

/-- What may stand in a comment or in quotes: no control character but the tab. -/
def isPlain (c : Char) : Bool := c == '\t' || (32 ≤ c.toNat && c.toNat != 127)

/-- What follows a line end. -/
def newline? : List Char → Option (List Char)
  | '\n' :: cs => some cs
  | '\x0d' :: '\n' :: cs => some cs
  | _ => none

/-- What follows a comment that begins here, or the text itself. -/
def skipComment : List Char → List Char
  | '#' :: cs => cs.dropWhile isPlain
  | cs => cs

/-- What follows blanks, an optional comment and the end of the line. -/
def lineEnd? (cs : List Char) : Option (List Char) :=
  match skipComment (skipGaps cs) with
  | [] => some []
  | cs => newline? cs

/-- Skips blanks, line ends and comments, each of which must end with its line. -/
def skipLines : Nat → List Char → Option (List Char)
  | 0,cs => some cs
  | fuel + 1,cs =>
    match skipGaps cs with
    | '#' :: rest => (newline? (rest.dropWhile isPlain)).bind (skipLines fuel)
    | '\n' :: rest => skipLines fuel rest
    | '\x0d' :: rest => (newline? ('\x0d' :: rest)).bind (skipLines fuel)
    | rest => some rest

/-- Skips over several lines. -/
def skipBlank (cs : List Char) : Option (List Char) := skipLines (cs.length + 1) cs

/-- The character of a code point written with hexadecimal digits. -/
def ofHex? (digits : List Char) : Option Char :=
  let n := Text.digitsFrom 16 0 digits
  if digits.all Text.isHexDigit ∧ n.isValidChar then some (Char.ofNat n) else none

/-- The character that an escape after a backslash stands for. -/
def escape? : List Char → Read Char
  | 'b' :: cs => some ('\x08',cs)
  | 't' :: cs => some ('\t',cs)
  | 'n' :: cs => some ('\n',cs)
  | 'f' :: cs => some ('\x0c',cs)
  | 'r' :: cs => some ('\x0d',cs)
  | '"' :: cs => some ('"',cs)
  | '\\' :: cs => some ('\\',cs)
  | 'u' :: a :: b :: c :: d :: cs => (ofHex? [a,b,c,d]).map (·,cs)
  | 'U' :: a :: b :: c :: d :: e :: f :: g :: h :: cs => (ofHex? [a,b,c,d,e,f,g,h]).map (·,cs)
  | _ => none

/-- Text up to a double quote, with escapes. -/
def basic? : Nat → List Char → Read (List Char)
  | 0,_ => none
  | _,[] => none
  | fuel + 1,c :: cs =>
    if c == '"' then some ([],cs)
    else if c == '\\' then
      (escape? cs).bind fun (d,cs) => (basic? fuel cs).map fun (t,cs) => (d :: t,cs)
    else if isPlain c then (basic? fuel cs).map fun (t,cs) => (c :: t,cs)
    else none

/-- Text up to a single quote, without escapes. -/
def literal? (cs : List Char) : Read (List Char) :=
  let t := cs.takeWhile fun c => isPlain c && c != '\x27'
  match cs.drop t.length with
  | '\x27' :: rest => some (t,rest)
  | _ => none

/-- The quotes before three that end a text over several lines. -/
def closing (quote : Char) (quotes : Nat) : List Char := List.replicate (quotes - 3) quote

/-- What follows a backslash at the end of a line: the next character that is no blank. -/
def foldLine? (cs : List Char) : Option (List Char) :=
  (newline? (skipGaps cs)).map fun cs => skipAll (cs.length + 1) cs
where
  skipAll : Nat → List Char → List Char
    | 0,cs => cs
    | fuel + 1,cs =>
      match newline? (skipGaps cs) with
      | some cs => skipAll fuel cs
      | none => skipGaps cs

/-- Text up to three quotes in a row, of which two more may belong to the text; `quotes` are the quotes
just read. Escapes only count when `escapes` is set. -/
def lines? (quote : Char) (escapes : Bool) : Nat → Nat → List Char → Read (List Char)
  | 0,_,_ => none
  | _,quotes,[] => if 3 ≤ quotes then some (closing quote quotes,[]) else none
  | fuel + 1,quotes,c :: cs =>
    if c == quote then
      if quotes = 4 then some (closing quote 5,cs) else lines? quote escapes fuel (quotes + 1) cs
    else if 3 ≤ quotes then some (closing quote quotes,c :: cs)
    else
      let before := List.replicate quotes quote
      let prepend (d : List Char) (r : Read (List Char)) : Read (List Char) :=
        r.map fun (t,cs) => (before ++ d ++ t,cs)
      if c == '\\' && escapes then
        match foldLine? cs with
        | some cs => prepend [] (lines? quote escapes fuel 0 cs)
        | none => (escape? cs).bind fun (d,cs) => prepend [d] (lines? quote escapes fuel 0 cs)
      else match newline? (c :: cs) with
        | some cs => prepend ['\n'] (lines? quote escapes fuel 0 cs)
        | none => if isPlain c then prepend [c] (lines? quote escapes fuel 0 cs) else none

/-- A text over several lines; a line end right after the opening quotes does not count. -/
def block? (quote : Char) (escapes : Bool) (cs : List Char) : Read (List Char) :=
  let cs := (newline? cs).getD cs
  lines? quote escapes (cs.length + 1) 0 cs

/-- A text in any of the four kinds of quotes. -/
def quoted? : List Char → Read (List Char)
  | '"' :: '"' :: '"' :: cs => block? '"' true cs
  | '"' :: cs => basic? (cs.length + 1) cs
  | '\x27' :: '\x27' :: '\x27' :: cs => block? '\x27' false cs
  | '\x27' :: cs => literal? cs
  | _ => none

def isBareKeyChar (c : Char) : Bool := c.isAlphanum || c == '-' || c == '_'

/-- One part of a key, bare or in quotes on one line. -/
def simpleKey? : List Char → Read String
  | '"' :: cs => (basic? (cs.length + 1) cs).map fun (t,cs) => (String.ofList t,cs)
  | '\x27' :: cs => (literal? cs).map fun (t,cs) => (String.ofList t,cs)
  | cs =>
    let t := cs.takeWhile isBareKeyChar
    if t.isEmpty then none else some (String.ofList t,cs.drop t.length)

/-- Further parts of a key after its first, each behind a dot. -/
def moreKeys? : Nat → List Char → Read (List String)
  | 0,_ => none
  | fuel + 1,cs =>
    match skipGaps cs with
    | '.' :: cs => (simpleKey? (skipGaps cs)).bind fun (k,cs) =>
        (moreKeys? fuel cs).map fun (ks,cs) => (k :: ks,cs)
    | cs => some ([],cs)

/-- Most parts of a key, and deepest nesting of values. -/
def depthLimit : Nat := 79

/-- A key: the parts before the last, and the last. -/
def key? (cs : List Char) : Read (List String × String) :=
  (simpleKey? (skipGaps cs)).bind fun (k,cs) =>
    (moreKeys? (cs.length + 1) cs).bind fun (ks,cs) =>
      let parts := k :: ks
      if parts.length ≤ depthLimit then some ((parts.dropLast,parts.getLastD k),cs) else none

end Recon.Toml
