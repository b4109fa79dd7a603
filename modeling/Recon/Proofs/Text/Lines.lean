import Mathlib.Data.List.Basic
import Recon.Proofs.Text.Blank
import Recon.Text.Lines

/-! Lines of a text. Cutting at line feeds undoes putting lines together, so a line can be taken out of a text, and
what is written item by item is read back just if every item is a line. -/
namespace Recon.Text

lemma pieces_eq_splitOnP (p : Char → Bool) (cs : List Char) : pieces p cs = cs.splitOnP p := by
  induction cs with
  | nil => rfl
  | cons c cs ih =>
    rw [pieces,List.splitOnP_cons_eq_if_modifyHead,ih]
    split
    · rfl
    · split
      · next none => exact absurd none (List.splitOnP_ne_nil p cs)
      · next first rest some => rw [some,List.modifyHead_cons]

lemma takeWhile_append_cons {p : Char → Bool} {run : List Char} {c : Char} (all : ∀ d ∈ run, p d = true)
    (stop : p c = false) (rest : List Char) : (run ++ c :: rest).takeWhile p = run := by
  rw [List.takeWhile_append_of_pos all,List.takeWhile_cons_of_neg (by simp [stop]),List.append_nil]

lemma dropWhile_append_cons {p : Char → Bool} {run : List Char} {c : Char} (all : ∀ d ∈ run, p d = true)
    (stop : p c = false) (rest : List Char) : (run ++ c :: rest).dropWhile p = c :: rest := by
  rw [List.dropWhile_append_of_pos all,List.dropWhile_cons_of_neg (by simp [stop])]

lemma not_of_mem_pieces {p : Char → Bool} {cs piece : List Char} {d : Char} (h : piece ∈ pieces p cs)
    (inside : d ∈ piece) : p d = false := by
  induction cs generalizing piece with
  | nil =>
    obtain rfl := List.mem_singleton.mp h
    cases inside
  | cons c cs ih =>
    rw [pieces] at h
    split at h
    · obtain rfl | later := List.mem_cons.mp h
      · cases inside
      · exact ih later inside
    · next other =>
      split at h
      · next none => exact absurd none (pieces_ne_nil p cs)
      · next first rest some =>
        rw [some] at ih
        obtain rfl | later := List.mem_cons.mp h
        · obtain rfl | further := List.mem_cons.mp inside
          · simpa using other
          · exact ih List.mem_cons_self further
        · exact ih (List.mem_cons_of_mem _ later) inside

/-- A character is in a piece, or it is one that cuts. -/
theorem mem_iff_mem_pieces {p : Char → Bool} {cs : List Char} {d : Char} (kept : p d = false) :
    d ∈ cs ↔ ∃ piece ∈ pieces p cs, d ∈ piece := by
  induction cs with
  | nil => simp
  | cons c cs ih =>
    rw [List.mem_cons,ih,pieces]
    split
    · next cuts =>
      have other : d ≠ c := by
        rintro rfl
        exact Bool.false_ne_true (kept.symm.trans cuts)
      simp [other]
    · split
      · next none => exact absurd none (pieces_ne_nil p cs)
      · next first rest some =>
        rw [some,List.exists_mem_cons_iff,List.exists_mem_cons_iff,List.mem_cons,or_assoc]

section RawLines

variable {cs : List Char}

lemma rawLines_eq_splitOn (cs : List Char) : rawLines cs = cs.splitOn '\n' := pieces_eq_splitOnP _ cs

lemma rawLines_ne_nil (cs : List Char) : rawLines cs ≠ [] := pieces_ne_nil _ cs

lemma not_mem_of_mem_rawLines {line : List Char} (h : line ∈ rawLines cs) : '\n' ∉ line := fun inside =>
  Bool.false_ne_true (not_of_mem_pieces h inside).symm

lemma rawLines_append (a b : List Char) : rawLines (a ++ '\n' :: b) = rawLines a ++ rawLines b := by
  simp only [rawLines_eq_splitOn,List.splitOn_append_cons_self]

/-- Putting lines together and cutting them apart again. -/
theorem rawLines_intercalate {ls : List (List Char)} (filled : ls ≠ []) (unbroken : ∀ l ∈ ls, '\n' ∉ l) :
    rawLines (['\n'].intercalate ls) = ls := by
  rw [rawLines_eq_splitOn,List.splitOn_intercalate '\n' unbroken filled]

/-- Items put together with line feeds are cut apart wherever one of them has a line feed, too. -/
theorem rawLines_intercalate_eq_flatMap {ls : List (List Char)} (filled : ls ≠ []) :
    rawLines (['\n'].intercalate ls) = ls.flatMap rawLines := by
  induction ls with
  | nil => exact absurd rfl filled
  | cons l ls ih =>
    cases ls with
    | nil => simp
    | cons l' ls =>
      rw [List.intercalate_cons_cons,List.append_assoc,List.singleton_append,rawLines_append,
        ih (List.cons_ne_nil _ _)]
      rfl

lemma rawLines_eq_singleton_iff : rawLines cs = [cs] ↔ '\n' ∉ cs := by
  constructor
  · intro whole
    exact not_mem_of_mem_rawLines (whole ▸ List.mem_singleton_self cs)
  · intro unbroken
    rw [rawLines_eq_splitOn,List.splitOn_eq_singleton unbroken]

/-- Of lines put together those that carry something are read. -/
theorem reportLines_intercalate {ls : List (List Char)} (unbroken : ∀ l ∈ ls, '\n' ∉ l) :
    reportLines (['\n'].intercalate ls) = (ls.map trim).filter isContent := by
  by_cases filled : ls = []
  · rw [filled]
    rfl
  · rw [reportLines,rawLines_intercalate filled unbroken]

variable (cs : List Char) (i : Nat)

/-- A text up to its line number `i`. -/
def beforeLine : List Char := ['\n'].intercalate ((rawLines cs).take i)

/-- A text from its line number `i` on, without that line. -/
def afterLine : List Char := ['\n'].intercalate ((rawLines cs).drop (i + 1))

/-- A text without its line number `i`. -/
def withoutLine : List Char := ['\n'].intercalate ((rawLines cs).eraseIdx i)

lemma reportLines_beforeLine : reportLines (beforeLine cs i) = (((rawLines cs).take i).map trim).filter isContent :=
  reportLines_intercalate fun _ inside => not_mem_of_mem_rawLines (List.mem_of_mem_take inside)

lemma reportLines_afterLine : reportLines (afterLine cs i) = (((rawLines cs).drop (i + 1)).map trim).filter isContent :=
  reportLines_intercalate fun _ inside => not_mem_of_mem_rawLines (List.mem_of_mem_drop inside)

lemma reportLines_withoutLine :
    reportLines (withoutLine cs i) = reportLines (beforeLine cs i) ++ reportLines (afterLine cs i) := by
  rw [withoutLine,reportLines_intercalate fun _ inside => not_mem_of_mem_rawLines (List.mem_of_mem_eraseIdx inside),
    reportLines_beforeLine,reportLines_afterLine,List.eraseIdx_eq_take_drop_succ,List.map_append,List.filter_append]

lemma reportLines_eq_append {line : List Char} (numbered : (rawLines cs)[i]? = some line) :
    reportLines cs = reportLines (beforeLine cs i) ++ ([trim line].filter isContent ++ reportLines (afterLine cs i)) := by
  obtain ⟨inside,rfl⟩ := List.getElem?_eq_some_iff.mp numbered
  rw [reportLines_beforeLine,reportLines_afterLine,← List.filter_append,← List.filter_append,List.singleton_append,
    ← List.map_cons,← List.map_append,← List.drop_eq_getElem_cons inside,List.take_append_drop,reportLines]

end RawLines

section Lines

/-- The line without the carriage return at its end. -/
def dropReturn (line : List Char) : List Char := if line.getLast? = some '\r' then line.dropLast else line

/-- The lines that a program reads: each goes up to a line feed, before which a carriage return may stand. What is left
after the last line feed is a line, too, if there is anything. -/
def lines (cs : List Char) : List (List Char) :=
  (rawLines cs).dropLast.map dropReturn ++ (rawLines cs).getLast?.toList.filter (!·.isEmpty)

/-- A text that is one line when it is written as such. -/
structure IsLine (cs : List Char) : Prop where
  unbroken : '\n' ∉ cs
  uncut : cs.getLast? ≠ some '\r'

lemma lines_concat (cs : List Char) : lines (cs ++ ['\n']) = (rawLines cs).map dropReturn := by
  rw [lines,rawLines_append cs []]
  simp [rawLines]

example : lines ['a','\r','\n','\n','b','\n'] = [['a'],[],['b']] := rfl

lemma dropReturn_eq_self_iff {cs : List Char} : dropReturn cs = cs ↔ cs.getLast? ≠ some '\r' := by
  unfold dropReturn
  split
  · next cut =>
    refine iff_of_false (fun same => ?_) fun uncut => uncut cut
    have shorter := congrArg List.length same
    have filled : cs ≠ [] := by
      rintro rfl
      cases cut
    have := List.length_pos_of_ne_nil filled
    rw [List.length_dropLast] at shorter
    omega
  · next uncut => exact iff_of_true rfl uncut

lemma map_dropReturn_rawLines_iff {cs : List Char} : (rawLines cs).map dropReturn = [cs] ↔ IsLine cs := by
  constructor
  · intro whole
    obtain ⟨line,alone,short⟩ := List.map_eq_singleton_iff.mp whole
    have same : line = cs := by
      have joined : ['\n'].intercalate (cs.splitOn '\n') = cs := List.intercalate_splitOn '\n'
      rwa [← rawLines_eq_splitOn,alone,List.intercalate_singleton] at joined
    subst same
    exact ⟨rawLines_eq_singleton_iff.mp alone,dropReturn_eq_self_iff.mp short⟩
  · rintro ⟨unbroken,uncut⟩
    rw [rawLines_eq_singleton_iff.mpr unbroken,List.map_singleton,dropReturn_eq_self_iff.mpr uncut]

lemma length_le_flatMap {α : Type} {f : α → List α} (filled : ∀ a, f a ≠ []) (as : List α) :
    as.length ≤ (as.flatMap f).length := by
  induction as with
  | nil => exact Nat.le_refl 0
  | cons a as ih =>
    have := List.length_pos_of_ne_nil (filled a)
    rw [List.flatMap_cons,List.length_append,List.length_cons]
    omega

lemma flatMap_eq_self_iff {α : Type} {f : α → List α} (filled : ∀ a, f a ≠ []) {as : List α} :
    as.flatMap f = as ↔ ∀ a ∈ as, f a = [a] := by
  induction as with
  | nil => simp
  | cons a as ih =>
    rw [List.flatMap_cons,List.forall_mem_cons,← ih]
    constructor
    · intro same
      have rest := length_le_flatMap filled as
      have first := List.length_pos_of_ne_nil (filled a)
      have total := congrArg List.length same
      rw [List.length_append,List.length_cons] at total
      obtain ⟨b,alone⟩ := List.length_eq_one_iff.mp (show (f a).length = 1 by omega)
      rw [alone] at same ⊢
      obtain ⟨rfl,later⟩ := List.cons.inj same
      exact ⟨rfl,later⟩
    · rintro ⟨alone,later⟩
      rw [alone,later]
      rfl

/-- Items written one a line are read as the lines of each. -/
theorem lines_intercalate {ls : List (List Char)} (filled : ls ≠ []) :
    lines (['\n'].intercalate ls ++ ['\n']) = ls.flatMap fun l => (rawLines l).map dropReturn := by
  rw [lines_concat,rawLines_intercalate_eq_flatMap filled,List.map_flatMap]

/-- They are read back as they were just if each of them is a line. -/
theorem lines_intercalate_eq_iff {ls : List (List Char)} (filled : ls ≠ []) :
    lines (['\n'].intercalate ls ++ ['\n']) = ls ↔ ∀ l ∈ ls, IsLine l := by
  rw [lines_intercalate filled,flatMap_eq_self_iff fun l => by simp [rawLines_ne_nil]]
  simp only [map_dropReturn_rawLines_iff]

lemma IsLine.append_iff {front rest : List Char} (h : IsLine front) : IsLine (front ++ rest) ↔ IsLine rest := by
  constructor
  · rintro ⟨unbroken,uncut⟩
    refine ⟨fun inside => unbroken (List.mem_append_right _ inside),fun last => uncut ?_⟩
    rw [List.getLast?_append,last]
    rfl
  · rintro ⟨unbroken,uncut⟩
    refine ⟨fun inside => (List.mem_append.mp inside).elim h.unbroken unbroken,fun last => ?_⟩
    rw [List.getLast?_append,Option.or_eq_some_iff] at last
    exact last.elim uncut fun alone => h.uncut alone.2

end Lines

end Recon.Text
