import Recon.Xml.Token

/-! Elements of an XML text as a tree, and the attributes of an element. -/
namespace Recon.Xml

inductive Node where
  | text (raw : List Char)
  | cdata (content : List Char)
  | element (name attributes : List Char) (children : List Node)

/-- An open element with what it holds so far, last first. -/
structure Frame where
  name : List Char
  attributes : List Char
  done : List Node

def Frame.close (f : Frame) : Node := .element f.name f.attributes f.done.reverse

/-- A complete element goes into the innermost open one; without one it is the root. -/
def settle (node : Node) : List Frame → Node ⊕ List Frame
  | [] => .inl node
  | f :: frames => .inr ({ f with done := node :: f.done } :: frames)

/-- Builds the root; what follows it is not looked at. -/
def build : List Frame → List Token → Option Node
  | _,[] => none
  | frames,token :: rest =>
    match token,frames with
    | .bad,_ => none
    | .text raw,[] => if raw.all isGap then build [] rest else none
    | .cdata _,[] => none
    | .text raw,f :: frames => build ({ f with done := .text raw :: f.done } :: frames) rest
    | .cdata content,f :: frames => build ({ f with done := .cdata content :: f.done } :: frames) rest
    | .opening name attributes empty,frames =>
      if empty then
        match settle (.element name attributes []) frames with
        | .inl root => some root
        | .inr frames => build frames rest
      else build (⟨name,attributes,[]⟩ :: frames) rest
    | .closing _,[] => none
    | .closing name,f :: frames =>
      if f.name == name then
        match settle f.close frames with
        | .inl root => some root
        | .inr frames => build frames rest
      else none

/-- The root element of a text. -/
def root? (cs : List Char) : Option Node := build [] (tokens cs)

/-- A name without its namespace. -/
def localName (name : List Char) : List Char :=
  if name.contains ':' then (name.dropWhile (· != ':')).drop 1 else name

/-- Where in an attribute the reading stands. -/
inductive AttributeMode where
  | gap
  | key (read : List Char)
  | beforeEquals (key : List Char)
  | beforeValue (key : List Char)
  | value (key : List Char) (quote : Char) (read : List Char)

/-- Names and raw values of attributes, in order. -/
def attributesFrom : AttributeMode → List Char → Option (List (List Char × List Char))
  | .gap,[] => some []
  | _,[] => none
  | .gap,c :: cs => if isGap c then attributesFrom .gap cs else attributesFrom (.key [c]) cs
  | .key read,c :: cs =>
    if c == '=' then attributesFrom (.beforeValue read.reverse) cs
    else if isGap c then attributesFrom (.beforeEquals read.reverse) cs
    else attributesFrom (.key (c :: read)) cs
  | .beforeEquals key,c :: cs =>
    if isGap c then attributesFrom (.beforeEquals key) cs
    else if c == '=' then attributesFrom (.beforeValue key) cs
    else none
  | .beforeValue key,c :: cs =>
    if isGap c then attributesFrom (.beforeValue key) cs
    else if c == '"' || c == '\x27' then attributesFrom (.value key c []) cs
    else none
  | .value key quote read,c :: cs =>
    if c == quote then (attributesFrom .gap cs).map ((key,read.reverse) :: ·)
    else attributesFrom (.value key quote (c :: read)) cs

/-- Attributes with distinct names. -/
def attributes? (raw : List Char) : Option (List (List Char × List Char)) :=
  (attributesFrom .gap raw).filter fun as => decide (as.map (·.1)).Nodup

/-- A declaration of a namespace. -/
def isNamespace (name : List Char) : Bool :=
  name == ['x','m','l','n','s'] || ['x','m','l','n','s',':'].isPrefixOf name

/-- The raw values of the attributes with a local name. -/
def valuesOf (name : List Char) (attributes : List (List Char × List Char)) : List (List Char) :=
  (attributes.filter fun a => !isNamespace a.1 && localName a.1 == name).map (·.2)

/-- Whether a text can be shown: every reference in it is known. -/
def isReadable (raw : List Char) : Bool := (unescape? raw).isSome

mutual

/-- Whether all text in a node can be shown. -/
def Node.isReadable : Node → Bool
  | .text raw => Xml.isReadable raw
  | .cdata _ => true
  | .element _ _ children => areReadable children

def areReadable : List Node → Bool
  | [] => true
  | n :: ns => Node.isReadable n && areReadable ns

end

end Recon.Xml
