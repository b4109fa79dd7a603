/-! UTF-8 as a machine over bytes. An ill-formed sequence counts as one unreadable piece up to the byte
that cannot continue it, and that byte is read afresh. -/
namespace Recon.Text.Utf8

/-- Between characters, or inside one: `left` bytes are to come, the next one between `lo` and `hi`,
and `acc` holds the bits read. -/
inductive State where
  | start
  | inside (left lo hi acc : Nat)
deriving DecidableEq, Repr

/-- What a byte means at the start of a character: the pieces it completes and the state after it. -/
def lead (b : UInt8) : List (Option Char) × State :=
  let n := b.toNat
  if n < 0x80 then ([some (Char.ofNat n)],.start)
  else if n < 0xC2 then ([none],.start)
  else if n < 0xE0 then ([],.inside 1 0x80 0xBF (n - 0xC0))
  else if n = 0xE0 then ([],.inside 2 0xA0 0xBF 0)
  else if n = 0xED then ([],.inside 2 0x80 0x9F 0xD)
  else if n < 0xF0 then ([],.inside 2 0x80 0xBF (n - 0xE0))
  else if n = 0xF0 then ([],.inside 3 0x90 0xBF 0)
  else if n < 0xF4 then ([],.inside 3 0x80 0xBF (n - 0xF0))
  else if n = 0xF4 then ([],.inside 3 0x80 0x8F 4)
  else ([none],.start)

/-- One byte: the pieces it completes and the state after it. -/
def step (s : State) (b : UInt8) : List (Option Char) × State :=
  match s with
  | .start => lead b
  | .inside left lo hi acc =>
    let n := b.toNat
    if lo ≤ n ∧ n ≤ hi then
      let acc := acc * 64 + (n - 0x80)
      if left ≤ 1 then ([some (Char.ofNat acc)],.start) else ([],.inside (left - 1) 0x80 0xBF acc)
    else
      let (pieces,next) := lead b
      (none :: pieces,next)

/-- The characters and the unreadable pieces (`none`) of a byte sequence, in order. -/
def scan : State → List UInt8 → List (Option Char)
  | .start,[] => []
  | .inside ..,[] => [none]
  | s,b :: bytes => (step s b).1 ++ scan (step s b).2 bytes

/-- Every unreadable piece becomes one replacement character. -/
def decodeLossy (bytes : List UInt8) : List Char := (scan .start bytes).map (·.getD '\ufffd')

/-- The text, if every byte belongs to a character. -/
def decode? (bytes : List UInt8) : Option (List Char) := (scan .start bytes).mapM id

end Recon.Text.Utf8
