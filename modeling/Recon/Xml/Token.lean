import Recon.Text.Decimal
import Recon.Text.Lines

/-! The pieces of an XML text: running text, character data, opening and closing tags. Comments,
declarations and processing instructions leave no piece. -/
namespace Recon.Xml

/-- White space of XML. -/
def isGap (c : Char) : Bool := c == ' ' || c == '\t' || c == '\n' || c == '\x0d'

inductive Token where
  /-- Running text with its references. -/
  | text (raw : List Char)
  | cdata (content : List Char)
  /-- The attributes are still unread. -/
  | opening (name attributes : List Char) (empty : Bool)
  | closing (name : List Char)
  | bad
deriving DecidableEq, Repr

/-- Where in a piece the reading stands; `read` is what has been read of it, last first. -/
inductive Mode where
  | text (read : List Char)
  /-- After `<`. -/
  | markup
  /-- After `<!`. -/
  | declaration
  | comment (read : List Char)
  | cdata (read : List Char)
  | doctype (depth : Nat) (read : List Char)
  | instruction (read : List Char)
  | closing (read : List Char)
  | opening (quote : Option Char) (read : List Char)

def textTokens (read : List Char) : List Token := if read.isEmpty then [] else [.text read.reverse]

/-- The tag between `<` and `>`. -/
def openingToken (content : List Char) : Token :=
  let empty := content.getLast? == some '/'
  let content := if empty then content.dropLast else content
  .opening (content.takeWhile fun c => !isGap c) (content.dropWhile fun c => !isGap c) empty

/-- Whether a text begins with `word`, whatever the letter case. -/
def beginsWith (word cs : List Char) : Bool := (cs.take word.length).map Char.toUpper == word

def cdataMark : List Char := ['[','C','D','A','T','A','[']

def doctypeMark : List Char := ['D','O','C','T','Y','P','E']

/-- A step inside an opening tag. A closing angle bracket inside quotes does not end it. -/
def openingStep (quote : Option Char) (read : List Char) (c : Char) : List Token × Mode :=
  match quote with
  | some q => ([],.opening (if c == q then none else some q) (c :: read))
  | none =>
    if c == '>' then ([openingToken read.reverse],.text [])
    else if c == '"' || c == '\x27' then ([],.opening (some c) (c :: read))
    else ([],.opening none (c :: read))

/-- One character: the pieces it completes and where the reading stands after it. -/
def step (mode : Mode) (c : Char) : List Token × Mode :=
  match mode with
  | .text read => if c == '<' then (textTokens read,.markup) else ([],.text (c :: read))
  | .markup =>
    if c == '!' then ([],.declaration)
    else if c == '?' then ([],.instruction [])
    else if c == '/' then ([],.closing [])
    else openingStep none [] c
  | .declaration =>
    if c == '-' then ([],.comment [c])
    else if c == '[' then ([],.cdata [c])
    else if c == 'D' || c == 'd' then ([],.doctype 0 [c])
    else ([.bad],.text [])
  | .comment read =>
    if c == '>' && 4 ≤ read.length && read.take 2 == ['-','-'] then
      (if ['-','-'].isPrefixOf read.reverse then [] else [.bad],.text [])
    else ([],.comment (c :: read))
  | .cdata read =>
    if c == '>' && read.take 2 == [']',']'] then
      let content := read.reverse
      (if cdataMark.isPrefixOf content then [.cdata ((content.drop 7).dropLast.dropLast)] else [.bad],.text [])
    else ([],.cdata (c :: read))
  | .doctype depth read =>
    if c == '<' then ([],.doctype (depth + 1) (c :: read))
    else if c == '>' then
      match depth with
      | 0 =>
        let content := read.reverse
        (if beginsWith doctypeMark content && !(content.drop 7).all isGap then [] else [.bad],.text [])
      | depth + 1 => ([],.doctype depth (c :: read))
    else ([],.doctype depth (c :: read))
  | .instruction read =>
    if c == '>' && read.isEmpty then ([.bad],.text [])
    else if c == '>' && read.head? == some '?' then ([],.text [])
    else ([],.instruction (c :: read))
  | .closing read =>
    if c == '>' then ([.closing (Text.dropEndWhile isGap read.reverse)],.text [])
    else ([],.closing (c :: read))
  | .opening quote read => openingStep quote read c

/-- The pieces of a text; one that breaks off is bad. -/
def tokensFrom : Mode → List Char → List Token
  | .text read,[] => textTokens read
  | _,[] => [.bad]
  | mode,c :: cs => (step mode c).1 ++ tokensFrom (step mode c).2 cs

/-- The pieces of a text, without a byte order mark in front. -/
def tokens : List Char → List Token
  | '\ufeff' :: cs => tokensFrom (.text []) cs
  | cs => tokensFrom (.text []) cs

/-- Names of characters that need one. -/
def entities : List (List Char × Char) := [
  (['l','t'],'<'),(['g','t'],'>'),(['a','m','p'],'&'),(['a','p','o','s'],'\x27'),
  (['q','u','o','t'],'"')]

/-- The character of a code point other than zero. -/
def ofCode? (n : Nat) : Option Char := if n ≠ 0 ∧ n.isValidChar then some (Char.ofNat n) else none

/-- The character that a reference between `&` and `;` stands for. -/
def reference? : List Char → Option Char
  | '#' :: 'x' :: digits =>
    if !digits.isEmpty && digits.all Text.isHexDigit then ofCode? (Text.digitsFrom 16 0 digits) else none
  | '#' :: digits =>
    if !digits.isEmpty && digits.all Char.isDigit then ofCode? (Text.digitsFrom 10 0 digits) else none
  | name => (entities.find? (·.1 == name)).map (·.2)

/-- Replaces references; `inside` is what has been read of one, last first. -/
def unescapeFrom : Option (List Char) → List Char → Option (List Char)
  | none,[] => some []
  | some _,[] => none
  | none,c :: cs =>
    if c == '&' then unescapeFrom (some []) cs else (unescapeFrom none cs).map (c :: ·)
  | some read,c :: cs =>
    if c == ';' then (reference? read.reverse).bind fun d => (unescapeFrom none cs).map (d :: ·)
    else if c == '&' then none
    else unescapeFrom (some (c :: read)) cs

def unescape? (cs : List Char) : Option (List Char) := unescapeFrom none cs

end Recon.Xml
