import Recon.Json.Number
import Recon.Json.Token

/-! Reading a JSON text in two passes, first into words and then into a tree. Both passes see each
element of their input once; open lists and tables wait on a stack, so depth does not matter. -/
namespace Recon.Json

/-- What the characters read since the last word belong to, nearest first. -/
inductive Lexeme where
  | gap
  | number (read : List Char)
  | word (read : List Char)
  | quoted (read : List Char)
  | escape (read : List Char)

def isNumberChar (c : Char) : Bool := c.isDigit || c == '+' || c == '-' || c == '.' || c == 'e' || c == 'E'

def words : List (List Char × Value) := [
  (['n','u','l','l'],.null),(['t','r','u','e'],.bool true),(['f','a','l','s','e'],.bool false)]

/-- A scalar followed by `rest`, which cannot belong to a further word. -/
def scalarThen (v : Value) (rest : List Char) : List Token :=
  if rest.isEmpty then [.scalar v] else [.scalar v,.bad]

def numberTokens (cs : List Char) : List Token :=
  match number? cs with
  | none => [.bad]
  | some (v,rest) => scalarThen v rest

def wordTokens (cs : List Char) : List Token :=
  match words.find? (fun w => w.1.isPrefixOf cs) with
  | none => [.bad]
  | some (w,v) => scalarThen v (cs.drop w.length)

/-- The words that one character completes and the lexeme it begins. -/
def start (c : Char) : List Token × Lexeme :=
  if isGap c then ([],.gap)
  else if c == '-' || c.isDigit then ([],.number [c])
  else if c.isAlpha then ([],.word [c])
  else match c with
    | '"' => ([],.quoted [])
    | '[' => ([.openList],.gap)
    | ']' => ([.closeList],.gap)
    | '\x7b' => ([.openTable],.gap)
    | '\x7d' => ([.closeTable],.gap)
    | ',' => ([.comma],.gap)
    | ':' => ([.colon],.gap)
    | _ => ([.bad],.gap)

/-- The words of a text, with `lexeme` already begun. -/
def tokensFrom : Lexeme → List Char → List Token
  | .gap,[] => []
  | .number read,[] => numberTokens read.reverse
  | .word read,[] => wordTokens read.reverse
  | .quoted _,[] => [.bad]
  | .escape _,[] => [.bad]
  | .gap,c :: cs => (start c).1 ++ tokensFrom (start c).2 cs
  | .number read,c :: cs =>
    if isNumberChar c then tokensFrom (.number (c :: read)) cs
    else numberTokens read.reverse ++ ((start c).1 ++ tokensFrom (start c).2 cs)
  | .word read,c :: cs =>
    if c.isAlphanum then tokensFrom (.word (c :: read)) cs
    else wordTokens read.reverse ++ ((start c).1 ++ tokensFrom (start c).2 cs)
  | .quoted read,c :: cs =>
    if c == '"' then Token.ofQuoted read.reverse :: tokensFrom .gap cs
    else if c == '\\' then tokensFrom (.escape (c :: read)) cs
    else tokensFrom (.quoted (c :: read)) cs
  | .escape read,c :: cs => tokensFrom (.quoted (c :: read)) cs

def tokens (cs : List Char) : List Token := tokensFrom .gap cs

/-- An open list or table with what it holds so far, last first. -/
inductive Frame where
  | list (done : List Value)
  | table (done : List (String × Value))
  /-- A table whose next entry has its key; `none` is an illegible key. -/
  | keyed (done : List (String × Value)) (key : Option String)

/-- Adds a complete value. -/
def Frame.add (v : Value) : Frame → Frame
  | .list done => .list (v :: done)
  | .table done => .table (("",v) :: done)
  | .keyed done none => .table (("",.keyless v) :: done)
  | .keyed done (some key) => .table ((key,v) :: done)

def Frame.close : Frame → Value
  | .list done => .list done.reverse
  | .table done => .table done.reverse
  | .keyed done _ => .table done.reverse

/-- The tree of a text that breaks off inside `frames`. -/
def breakOff (frames : List Frame) : Document :=
  ⟨frames.foldl (fun v frame => (frame.add v).close) .broken,true⟩

/-- What the next word may be. -/
inductive Expect where
  | value | valueOrClose | keyOrClose | key | colon | separator

/-- What a word leads to: further words, a complete root, or nothing. -/
inductive Next where
  | go (frames : List Frame) (expect : Expect)
  | done (root : Value)
  | stop

/-- A complete value goes into the innermost open frame; without one it is the root. -/
def settle (v : Value) : List Frame → Next
  | [] => .done v
  | frame :: frames => .go (frame.add v :: frames) .separator

/-- The step from one word to the next. -/
def next (frames : List Frame) : Expect → Token → Next
  | .value,.openList | .valueOrClose,.openList => .go (.list [] :: frames) .valueOrClose
  | .value,.openTable | .valueOrClose,.openTable => .go (.table [] :: frames) .keyOrClose
  | .value,.scalar v | .valueOrClose,.scalar v => settle v frames
  | .value,.text s | .valueOrClose,.text s => settle ((s.map Value.text).getD .illegible) frames
  | .key,.text s | .keyOrClose,.text s =>
    match frames with
    | .table done :: frames => .go (.keyed done s :: frames) .colon
    | _ => .stop
  | .colon,.colon => .go frames .value
  | .separator,.comma =>
    match frames with
    | .list _ :: _ => .go frames .value
    | .table _ :: _ => .go frames .key
    | _ => .stop
  | .separator,.closeList | .valueOrClose,.closeList =>
    match frames with
    | .list done :: frames => settle (.list done.reverse) frames
    | _ => .stop
  | .separator,.closeTable | .keyOrClose,.closeTable =>
    match frames with
    | .table done :: frames => settle (.table done.reverse) frames
    | _ => .stop
  | _,_ => .stop

/-- Builds the tree up to the end of the root or to the word where the text breaks off. -/
def build (frames : List Frame) (expect : Expect) : List Token → Document
  | [] => breakOff frames
  | token :: rest =>
    match next frames expect token with
    | .go frames expect => build frames expect rest
    | .done root => ⟨root,!rest.isEmpty⟩
    | .stop => breakOff frames

def read (cs : List Char) : Document := build [] .value (tokens cs)

end Recon.Json
