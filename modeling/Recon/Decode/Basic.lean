import Recon.Dict
import Recon.Duration.Reader
import Recon.Value

/-! Taking typed data out of a tree. A decoder gives the data or the first fault in document order; the
two notations differ only in how much surplus they tolerate. -/
namespace Recon

/-- Why a value is no span of time although its type would do. -/
inductive DurationFault where
  | unreadable (cause : Duration.ReadError)
  | negative (seconds : Int)
  | unexpectedKeys (first second : String)
  | insufficient
deriving DecidableEq, Repr

def DurationFault.message : DurationFault → String
  | .unreadable cause => cause.message
  | .negative seconds => "negative duration: " ++ toString seconds
  | .unexpectedKeys first second => "unexpected keys " ++ first ++ ", " ++ second
  | .insufficient => "insufficient data for a duration"

/-- Why a tree does not give the data asked for. -/
inductive Fault where
  | mismatch
  | duration (cause : DurationFault)
  /-- Seconds and nanoseconds that add up to more than a span of time can hold. -/
  | overflow
deriving DecidableEq, Repr

abbrev Decoded (α : Type) := Except Fault α

/-- What a notation tolerates. -/
structure Format where
  /-- Items beyond those of a record given as a list, and entries beyond the two of a span of time. -/
  surplus : Bool
  /-- What stands beside a tag that carries nothing. -/
  isNothing : Value → Bool

namespace Format

def json : Format where
  surplus := false
  isNothing
    | .null => true
    | _ => false

def toml : Format where
  surplus := true
  isNothing
    | .table [] | .list [] => true
    | _ => false

end Format

namespace Decode

def text : Value → Decoded String
  | .text s => .ok s
  | _ => .error .mismatch

def bool : Value → Decoded Bool
  | .bool b => .ok b
  | _ => .error .mismatch

/-- A whole number from zero up to below `bound`. -/
def below (bound : Nat) : Value → Decoded Nat
  | .int i => if 0 ≤ i ∧ i < bound then .ok i.toNat else .error .mismatch
  | _ => .error .mismatch

def uint64 (v : Value) : Decoded UInt64 := (below UInt64.size v).map UInt64.ofNat

def uint16 (v : Value) : Decoded UInt16 := (below UInt16.size v).map UInt16.ofNat

def binary64 : Value → Decoded Binary64
  | .float x => .ok x
  | .int i => .ok (.ofInt i)
  | _ => .error .mismatch

/-- Nothing for `null`, otherwise what `d` gives. -/
def optional {α : Type} (d : Value → Decoded α) : Value → Decoded (Option α)
  | .null => .ok none
  | v => (d v).map some

def items {α : Type} (d : Value → Decoded α) : List Value → Decoded (List α)
  | [] => .ok []
  | v :: vs =>
    match d v with
    | .error f => .error f
    | .ok a => (items d vs).map (a :: ·)

def list {α : Type} (d : Value → Decoded α) : Value → Decoded (List α)
  | .list vs => items d vs
  | _ => .error .mismatch

def texts : Value → Decoded (List String) := list text

/-- Entries in document order, each value through `d`. -/
def entries {α : Type} (d : Value → Decoded α) : List (String × Value) → Decoded (List (String × α))
  | [] => .ok []
  | (key,v) :: es =>
    match d v with
    | .error f => .error f
    | .ok a => (entries d es).map ((key,a) :: ·)

/-- A table with free keys; the last of equal keys counts. -/
def dict {α : Type} (d : Value → Decoded α) : Value → Decoded (Dict α)
  | .table es => (entries d es).map Dict.ofList
  | _ => .error .mismatch

/-- A tag with what it carries: `{"tag": content}`. -/
def tagged {α : Type} (d : String → Option (Value → Decoded α)) : Value → Decoded α
  | .table [(tag,v)] =>
    match d tag with
    | none => .error .mismatch
    | some d => d v
  | .table ((tag,v) :: _) =>
    match d tag with
    | none => .error .mismatch
    | some d => match d v with
      | .error f => .error f
      | .ok _ => .error .mismatch
  | _ => .error .mismatch

/-- One of a set of names, on its own or as a tag that carries nothing. -/
def name {α : Type} (format : Format) (ofName? : String → Option α) : Value → Decoded α
  | .text s => (ofName? s).elim (.error .mismatch) .ok
  | v => tagged (fun s => (ofName? s).map fun a v => if format.isNothing v then .ok a else .error .mismatch) v

/-- Seconds and nanoseconds; of the nanoseconds only the last 32 bits count. -/
def span (secs nanos : Nat) : Decoded Duration :=
  (Duration.ofNanos? (secs * Duration.Unit.second.nanos + nanos % UInt32.size)).elim (.error .overflow) .ok

/-- Seconds and nanoseconds by name. -/
def secondsAndNanos (first second : String) (a b : Nat) : Decoded Duration :=
  if first = "secs" ∧ second = "nanos" then span a b
  else if first = "nanos" ∧ second = "secs" then span b a
  else .error (.duration (.unexpectedKeys first second))

/-- The first two entries decide; only then is anything after them looked at. -/
def durationTable (format : Format) : List (String × Value) → Decoded Duration
  | [] => .error (.duration .insufficient)
  | (first,v) :: es =>
    match below UInt64.size v with
    | .error f => .error f
    | .ok a =>
      match es with
      | [] => .error (.duration .insufficient)
      | (second,w) :: es =>
        match below UInt64.size w with
        | .error f => .error f
        | .ok b =>
          match secondsAndNanos first second a b with
          | .error f => .error f
          | .ok d => if format.surplus || es.isEmpty then .ok d else .error .mismatch

/-- A text with a unit, whole seconds, or a table of seconds and nanoseconds. -/
def duration (format : Format) : Value → Decoded Duration
  | .text s =>
    match Duration.read s.toList with
    | .error cause => .error (.duration (.unreadable cause))
    | .ok d => .ok d
  | .int i =>
    if i < 0 then .error (.duration (.negative i))
    else match Duration.ofSeconds? i.toNat with
      | none => .error .mismatch
      | some d => .ok d
  | .table es => durationTable format es
  | _ => .error .mismatch

/-- The data of a whole document. -/
def document {α : Type} (d : Value → Decoded α) (doc : Document) : Decoded α :=
  match d doc.root with
  | .error f => .error f
  | .ok a => if doc.trailing then .error .mismatch else .ok a

end Decode
end Recon
