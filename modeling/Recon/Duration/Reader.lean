import Recon.Duration.Basic
import Recon.Text.Lines
import Recon.Text.Classes

/-! Reading spans of time such as `500ms`, `30 min` or `42`. A text is a run of numeric characters and
a unit, and each of the three ways it can fail has its own cause. -/
namespace Recon.Duration

/-- Why a text is no span of time. -/
inductive ReadError where
  | invalidNumber (text : List Char)
  | unknownUnit (unit : List Char)
  | outOfRange (text : List Char)
deriving DecidableEq, Repr

/-- Unit names in the order in which messages list them. -/
def unitNames : List (List Char × Unit) := [
  (['n','s'],.nano),(['u','s'],.micro),(['µ','s'],.micro),(['m','s'],.milli),
  (['s'],.second),(['m'],.minute),(['m','i','n'],.minute),(['h'],.hour)]

/-- A number without a unit counts seconds. -/
def unitOf? (name : List Char) : Option Unit :=
  if name.isEmpty then some .second else (unitNames.find? (·.1 == name)).map (·.2)

def ReadError.message : ReadError → String
  | .invalidNumber text => "Invalid number in duration: " ++ String.ofList text
  | .unknownUnit unit =>
    "Unknown duration unit '" ++ String.ofList unit ++ "' only '"
      ++ ", ".intercalate (unitNames.map (String.ofList ·.1)) ++ "' are supported"
  | .outOfRange text => "Duration out of range: " ++ String.ofList text

/-- The leading run of numeric characters must be plain digits of a value below 2^64. -/
def read (cs : List Char) : Except ReadError Duration :=
  let text := Text.trim cs
  match Text.readBelow? UInt64.size (text.takeWhile Text.isNumeric) with
  | none => .error (.invalidNumber text)
  | some value =>
    let rest := text.dropWhile Text.isNumeric
    match unitOf? (Text.trim rest) with
    | none => .error (.unknownUnit rest)
    | some unit =>
      match ofNanos? (value * unit.nanos) with
      | none => .error (.outOfRange text)
      | some d => .ok d

end Recon.Duration
