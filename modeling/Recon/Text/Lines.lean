import Recon.Text.Classes

/-! Taking texts apart and putting them together again: the blanks at their ends, the pieces between separators, the
words, and the lines of a program's report that carry something, which are trimmed and neither empty nor comments. The
lines of a text cut at a line break are those of its two halves. -/
namespace Recon.Text

def trimStart (cs : List Char) : List Char := cs.dropWhile isBlank

/-- Drops the longest run at the end whose characters all satisfy `p`. -/
def dropEndWhile (p : Char → Bool) (cs : List Char) : List Char := (cs.reverse.dropWhile p).reverse

def trimEnd (cs : List Char) : List Char := dropEndWhile isBlank cs

def trim (cs : List Char) : List Char := trimEnd (trimStart cs)

@[simp] theorem trimStart_nil : trimStart [] = [] := rfl

@[simp] theorem dropEndWhile_nil (p : Char → Bool) : dropEndWhile p [] = [] := rfl

@[simp] theorem trim_nil : trim [] = [] := rfl

/-- The parts between the characters that satisfy `p`; one part more than there are separators. -/
def pieces (p : Char → Bool) : List Char → List (List Char)
  | [] => [[]]
  | c :: cs =>
    if p c then [] :: pieces p cs
    else match pieces p cs with
      | [] => [[c]]
      | w :: ws => (c :: w) :: ws

@[simp] theorem pieces_nil (p : Char → Bool) : pieces p [] = [[]] := rfl

theorem pieces_ne_nil (p : Char → Bool) (cs : List Char) : pieces p cs ≠ [] := by
  cases cs with
  | nil => simp
  | cons c cs =>
    simp only [pieces]
    split
    · simp
    · split <;> simp

/-- The maximal runs of characters that are not blank. -/
def words (cs : List Char) : List (List Char) := (pieces isBlank cs).filter (fun w => !w.isEmpty)

/-- The texts with `sep` between neighbours. -/
def joinWith (sep : List Char) : List (List Char) → List Char
  | [] => []
  | [w] => w
  | w :: ws => w ++ sep ++ joinWith sep ws

@[simp] theorem joinWith_nil (sep : List Char) : joinWith sep [] = [] := rfl

@[simp] theorem joinWith_singleton (sep w : List Char) : joinWith sep [w] = w := rfl

/-- The text before and after the first `c`. -/
def splitOnce (c : Char) : List Char → Option (List Char × List Char)
  | [] => none
  | d :: cs => if d = c then some ([],cs) else (splitOnce c cs).map fun (a,b) => (d :: a,b)

/-- What follows `pre` when the text begins with it. -/
def after? : (pre text : List Char) → Option (List Char)
  | [],text => some text
  | _ :: _,[] => none
  | p :: pre,c :: text => if p = c then after? pre text else none

@[simp] theorem after?_nil (text : List Char) : after? [] text = some text := by cases text <;> rfl

/-- A text begins with `pre` exactly when it is `pre` and a rest. -/
theorem after?_eq_some_iff {pre text rest : List Char} : after? pre text = some rest ↔ text = pre ++ rest := by
  induction pre generalizing text with
  | nil => simp [eq_comm]
  | cons p pre ih =>
    cases text with
    | nil => simp [after?]
    | cons c text =>
      by_cases h : p = c
      · simp [after?,h,ih]
      · simp [after?,h,Ne.symm h]

theorem after?_append (pre rest : List Char) : after? pre (pre ++ rest) = some rest := after?_eq_some_iff.mpr rfl

/-- Whether `needle` stands somewhere in the text. -/
def occurs (needle : List Char) : List Char → Bool
  | [] => needle.isEmpty
  | c :: cs => needle.isPrefixOf (c :: cs) || occurs needle cs

/-- Cuts at line feeds; a carriage return before one goes when the line is trimmed. -/
def rawLines (cs : List Char) : List (List Char) := pieces (· == '\n') cs

/-- A trimmed line counts unless it is empty or begins with a number sign. -/
def isContent (line : List Char) : Bool := !line.isEmpty && line.head? != some '#'

def reportLines (cs : List Char) : List (List Char) := ((rawLines cs).map trim).filter isContent

/-- The trimmed non-empty items between commas. -/
def commaItems (cs : List Char) : List (List Char) :=
  ((pieces (· == ',') cs).map trim).filter (fun w => !w.isEmpty)

@[simp] theorem reportLines_nil : reportLines [] = [] := rfl

@[simp] theorem commaItems_nil : commaItems [] = [] := rfl

end Recon.Text
