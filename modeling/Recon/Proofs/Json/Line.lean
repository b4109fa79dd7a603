import Recon.Json.Printer
import Recon.Proofs.Json.Words
import Recon.Proofs.Text.Blank

/-! Trees printed on one line. What is written brings no line break, and a table has no blank at its ends. -/
namespace Recon.Json

open Text

/-- A written character brings no line break. -/
theorem Quotation.newline_not_mem {c : Char} {spelling : List Char} (h : Quotation c spelling) : '\n' ∉ spelling := by
  have digit {d : Char} (hex : isHexDigit d = true) : '\n' ≠ d := by
    rintro rfl
    exact absurd hex (by decide)
  cases h with
  | plain visible mark escape =>
    rw [List.mem_singleton]
    rintro rfl
    exact absurd visible (by decide)
  | short e means code =>
    have named : '\n' ≠ e := by
      rintro rfl
      cases means
    simp [named]
  | coded a b control digits value => simp [digit digits.1,digit digits.2]

lemma newline_not_mem_quoted (cs : List Char) : '\n' ∉ quoted cs := by
  have inner : '\n' ∉ cs.flatMap quotedChar := fun inside => by
    obtain ⟨c,-,here⟩ := List.mem_flatMap.mp inside
    exact (quotation c).newline_not_mem here
  simp [quoted,inner]

lemma newline_not_mem_intText (i : Int) : '\n' ∉ intText i := by
  have digits (n : Nat) : '\n' ∉ decimal n := fun inside => absurd (isDigit_of_mem_decimal inside) (by decide)
  unfold intText
  split
  · simp [digits]
  · exact digits _

section OneLine

lemma lineBreak_oneLine (depth : Nat) : oneLine.lineBreak depth = [] := rfl

lemma newline_not_mem_text (s : String) (depth : Nat) : '\n' ∉ print oneLine depth (.text s) := by
  rw [print]
  exact newline_not_mem_quoted _

lemma newline_not_mem_int (i : Int) (depth : Nat) : '\n' ∉ print oneLine depth (.int i) := by
  rw [print]
  exact newline_not_mem_intText i

lemma newline_not_mem_printEntry {v : Value} {depth : Nat} (whole : '\n' ∉ print oneLine depth v) (key : String) :
    '\n' ∉ printEntry oneLine depth key v := by
  have apart : '\n' ∉ oneLine.afterColon := List.not_mem_nil
  simp [printEntry,newline_not_mem_quoted,apart,whole]

variable {es : List (String × Value)}

lemma newline_not_mem_printEntries (whole : ∀ e ∈ es, ∀ depth, '\n' ∉ print oneLine depth e.2) (depth : Nat) :
    '\n' ∉ printEntries oneLine depth es := by
  induction es with
  | nil =>
    rw [printEntries]
    exact List.not_mem_nil
  | cons e es ih =>
    rw [List.forall_mem_cons] at whole
    rw [printEntries]
    simp [lineBreak_oneLine,newline_not_mem_printEntry (whole.1 depth),ih whole.2]

/-- A table on one line has no line break if its values have none. -/
theorem newline_not_mem_compact (whole : ∀ e ∈ es, ∀ depth, '\n' ∉ print oneLine depth e.2) :
    '\n' ∉ compact (.table es) := by
  cases es with
  | nil =>
    rw [compact,print]
    decide
  | cons e es =>
    rw [List.forall_mem_cons] at whole
    rw [compact,print]
    simp [lineBreak_oneLine,newline_not_mem_printEntry (whole.1 1),newline_not_mem_printEntries whole.2]

end OneLine

section Table

variable (layout : Layout) (depth : Nat)

lemma head?_print_table (es : List (String × Value)) : (print layout depth (.table es)).head? = some '\x7b' := by
  cases es with
  | nil =>
    rw [print]
    rfl
  | cons e es =>
    rw [print]
    rfl

/-- A table begins with a brace and ends with one. -/
theorem trimmed_print_table (es : List (String × Value)) : Trimmed (print layout depth (.table es)) := by
  refine ⟨fun c first => ?_,fun c last => ?_⟩
  · rw [head?_print_table] at first
    exact Option.some.inj first ▸ rfl
  · cases es with
    | nil =>
      rw [print] at last
      exact Option.some.inj last ▸ rfl
    | cons e es =>
      rw [print,List.getLast?_concat] at last
      exact Option.some.inj last ▸ rfl

end Table
end Recon.Json
