/-! Decimal numbers as texts. -/
namespace Recon.Text

/-- The value of a run of digits, read on from `acc`. -/
def digitsFrom (base acc : Nat) : List Char → Nat
  | [] => acc
  | c :: cs => digitsFrom base (acc * base + digitValue c) cs
where
  /-- Value of a digit up to `f`, in either case. -/
  digitValue (c : Char) : Nat :=
    if c.isDigit then c.toNat - 48
    else if 'a' ≤ c ∧ c ≤ 'f' then c.toNat - 87
    else if 'A' ≤ c ∧ c ≤ 'F' then c.toNat - 55
    else 0

def isHexDigit (c : Char) : Bool := c.isDigit || ('a' ≤ c && c ≤ 'f') || ('A' ≤ c && c ≤ 'F')

/-- A non-empty run of decimal digits, and nothing else. -/
def readNat? (cs : List Char) : Option Nat :=
  if cs.isEmpty || !cs.all Char.isDigit then none else some (digitsFrom 10 0 cs)

/-- A decimal number below `bound`. -/
def readBelow? (bound : Nat) (cs : List Char) : Option Nat :=
  (readNat? cs).filter (· < bound)

/-- As `readBelow?`, with an optional plus sign in front. -/
def readSignedBelow? (bound : Nat) : List Char → Option Nat
  | '+' :: cs => readBelow? bound cs
  | cs => readBelow? bound cs

/-- Powers of ten. -/
def tenTo (n : Nat) : Nat := Nat.pow 10 n

/-- Decimal text without leading zeros. -/
def decimal (n : Nat) : List Char := Nat.toDigits 10 n

/-- Decimal text with zeros in front up to `width`. -/
def decimalPadded (width n : Nat) : List Char :=
  List.replicate (width - (decimal n).length) '0' ++ decimal n

@[simp] theorem readNat?_nil : readNat? [] = none := rfl

end Recon.Text
