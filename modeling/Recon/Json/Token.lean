import Recon.Value

/-! The words of a JSON text. A text that cannot be cut further ends with the word `bad`. -/
namespace Recon.Json

inductive Token where
  | openList | closeList | openTable | closeTable | comma | colon
  /-- A scalar that cannot be a key. -/
  | scalar (v : Value)
  /-- A quoted text, or `none` when it holds half a surrogate pair. -/
  | text (s : Option String)
  | bad

/-- Blanks between words: space, tab, line feed, carriage return. -/
def isGap (c : Char) : Bool := c == ' ' || c == '\t' || c == '\n' || c == '\x0d'

/-- What stands inside quotes: a character, or one half of a surrogate pair. -/
inductive Piece where
  | char (c : Char)
  | high (code : Nat)
  | low (code : Nat)

/-- A code unit written with four hexadecimal digits. -/
def Piece.ofCode (n : Nat) : Piece :=
  if 0xD800 ≤ n ∧ n < 0xDC00 then .high n
  else if 0xDC00 ≤ n ∧ n < 0xE000 then .low n
  else .char (Char.ofNat n)

/-- The character a backslash and `c` stand for. -/
def escaped? : Char → Option Char
  | '"' => some '"'
  | '\\' => some '\\'
  | '/' => some '/'
  | 'b' => some '\x08'
  | 'f' => some '\x0c'
  | 'n' => some '\n'
  | 'r' => some '\x0d'
  | 't' => some '\t'
  | _ => none

/-- The pieces between two quotes, unless an escape is unknown or a control character stands there. -/
def pieces? : List Char → Option (List Piece)
  | [] => some []
  | '\\' :: 'u' :: a :: b :: c :: d :: rest =>
    if [a,b,c,d].all Text.isHexDigit then
      (pieces? rest).map (.ofCode (Text.digitsFrom 16 0 [a,b,c,d]) :: ·)
    else none
  | '\\' :: c :: rest => (escaped? c).bind fun e => (pieces? rest).map (.char e :: ·)
  | c :: rest => if c.toNat < 32 || c == '\\' then none else (pieces? rest).map (.char c :: ·)

/-- Joins surrogate pairs; a half on its own stands for no character. -/
def joinPieces? : List Piece → Option (List Char)
  | [] => some []
  | .char c :: rest => (joinPieces? rest).map (c :: ·)
  | .high h :: .low l :: rest =>
    (joinPieces? rest).map (Char.ofNat (0x10000 + (h - 0xD800) * 1024 + (l - 0xDC00)) :: ·)
  | _ => none

def Token.ofQuoted (body : List Char) : Token :=
  match pieces? body with
  | none => .bad
  | some pieces => .text ((joinPieces? pieces).map String.ofList)

end Recon.Json
