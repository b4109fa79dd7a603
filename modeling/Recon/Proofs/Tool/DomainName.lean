import Mathlib.Data.List.Infix
import Recon.Proofs.Text.Lines
import Recon.Tool.Address

/-! The names that pass for domains. A name is made of labels with dots between them, but the check never takes it
apart: it sees an empty label at the front and at the end only, and two dots in a row are let through. -/
namespace Recon.Target

open Text

/-- An ASCII letter, a digit or a dash. -/
def IsLabelChar (c : Char) : Prop := c.isAlphanum = true ∨ c = '-'

/-- Two labels or more; they may be empty. -/
structure Labels (labels : List (List Char)) : Prop where
  several : 2 ≤ labels.length
  plain : ∀ label ∈ labels, ∀ c ∈ label, IsLabelChar c

def dotted (labels : List (List Char)) : List Char := ['.'].intercalate labels

/-- A name of 253 bytes at most, all of whose labels are filled. -/
def IsName (s : String) : Prop := s.utf8ByteSize ≤ 253 ∧
  ∃ labels, Labels labels ∧ (∀ label ∈ labels, label ≠ []) ∧ s.toList = dotted labels

section Dots

variable {label cs : List Char} {labels : List (List Char)}

lemma IsLabelChar.ne_dot {c : Char} (h : IsLabelChar c) : c ≠ '.' := by
  rintro rfl
  exact absurd h (by unfold IsLabelChar; decide)

lemma Labels.dot_not_mem (made : Labels labels) (listed : label ∈ labels) : '.' ∉ label := fun inside =>
  (made.plain label listed '.' inside).ne_dot rfl

lemma Labels.exists_cons (made : Labels labels) : ∃ first later, labels = first :: later ∧ later ≠ [] := by
  match labels,made.several with
  | first :: next :: more,_ => exact ⟨first,next :: more,rfl,List.cons_ne_nil _ _⟩

lemma dotted_cons (label : List Char) (filled : labels ≠ []) :
    dotted (label :: labels) = label ++ '.' :: dotted labels := by
  rw [dotted,List.intercalate_cons_of_ne_nil filled,List.append_assoc]
  rfl

lemma dotted_concat (filled : labels ≠ []) (label : List Char) :
    dotted (labels ++ [label]) = dotted labels ++ '.' :: label := by
  induction labels with
  | nil => exact absurd rfl filled
  | cons first labels ih =>
    by_cases alone : labels = []
    · subst alone
      simp [dotted]
    · rw [List.cons_append,dotted_cons first (by simp),ih alone,dotted_cons first alone,List.append_assoc,
        List.cons_append]

/-- A label that ends at a dot is empty just if the dot comes first. -/
theorem head?_append_dot (undotted : '.' ∉ label) (rest : List Char) :
    (label ++ '.' :: rest).head? = some '.' ↔ label = [] := by
  cases label with
  | nil => simp
  | cons c label =>
    rw [List.mem_cons,not_or] at undotted
    simp [Ne.symm undotted.1]

lemma mem_dotted {c : Char} (inside : c ∈ dotted labels) : c = '.' ∨ ∃ label ∈ labels, c ∈ label := by
  induction labels with
  | nil => cases inside
  | cons label labels ih =>
    by_cases alone : labels = []
    · subst alone
      exact .inr ⟨label,List.mem_cons_self,by simpa [dotted] using inside⟩
    · rw [dotted_cons label alone,List.mem_append,List.mem_cons] at inside
      obtain here | rfl | later := inside
      · exact .inr ⟨label,List.mem_cons_self,here⟩
      · exact .inl rfl
      · exact (ih later).imp_right fun ⟨other,listed,here⟩ => ⟨other,List.mem_cons_of_mem _ listed,here⟩

/-- A text with a dot in it is made of two labels or more. -/
theorem exists_labels_iff : (∃ labels, Labels labels ∧ cs = dotted labels) ↔
    '.' ∈ cs ∧ ∀ c ∈ cs, c = '.' ∨ IsLabelChar c := by
  constructor
  · rintro ⟨labels,made,rfl⟩
    refine ⟨?_,fun c inside => (mem_dotted inside).imp_right fun ⟨label,listed,here⟩ => made.plain label listed c here⟩
    obtain ⟨first,later,rfl,filled⟩ := made.exists_cons
    rw [dotted_cons first filled]
    exact List.mem_append_right _ List.mem_cons_self
  · rintro ⟨dot,plain⟩
    have joined : cs = dotted (pieces (· == '.') cs) := by
      rw [pieces_eq_splitOnP]
      exact (List.intercalate_splitOn '.').symm
    have undotted {label : List Char} (listed : label ∈ pieces (· == '.') cs) {c : Char} (here : c ∈ label) :
        c ≠ '.' := by
      simpa using not_of_mem_pieces listed here
    refine ⟨pieces (· == '.') cs,⟨?_,fun label listed c here => ?_⟩,joined⟩
    · -- a single label would be the whole text, dot and all
      match cut : pieces (· == '.') cs with
      | [] => exact absurd cut (pieces_ne_nil _ cs)
      | [label] =>
        rw [cut,dotted,List.intercalate_singleton] at joined
        exact absurd rfl (undotted (cut ▸ List.mem_singleton_self label) (joined ▸ dot))
      | _ :: _ :: _ => simp
    · refine (plain c ?_).resolve_left (undotted listed here)
      exact (mem_iff_mem_pieces (not_of_mem_pieces listed here)).mpr ⟨label,listed,here⟩

end Dots

section Gaps

variable {labels : List (List Char)} (made : Labels labels)

include made

lemma Labels.exists_concat : ∃ earlier last, labels = earlier ++ [last] ∧ earlier ≠ [] := by
  have several := made.several
  refine ⟨labels.dropLast,labels.getLast ?_,(List.dropLast_concat_getLast _).symm,?_⟩
  · rintro rfl
    simp at several
  · rw [← List.length_pos_iff,List.length_dropLast]
    omega

/-- A dot at the front follows an empty label. -/
theorem Labels.head?_dotted_iff : (dotted labels).head? = some '.' ↔ labels.head? = some [] := by
  obtain ⟨first,later,rfl,filled⟩ := made.exists_cons
  rw [dotted_cons first filled,head?_append_dot (made.dot_not_mem List.mem_cons_self),List.head?_cons,Option.some_inj]

/-- A dot at the end is followed by an empty label. -/
theorem Labels.getLast?_dotted_iff : (dotted labels).getLast? = some '.' ↔ labels.getLast? = some [] := by
  obtain ⟨earlier,last,rfl,filled⟩ := made.exists_concat
  have undotted := made.dot_not_mem (List.mem_append_right earlier (List.mem_singleton_self last))
  rw [dotted_concat filled,List.getLast?_concat,Option.some_inj]
  by_cases empty : last = []
  · simp [empty]
  · refine iff_of_false (fun final => undotted (List.mem_of_getLast? ?_)) empty
    rwa [List.append_cons,List.getLast?_append_of_ne_nil _ empty] at final

omit made

/-- What begins with a dot does not begin inside a label. -/
theorem infix_append_iff_of_undotted {label : List Char} (undotted : '.' ∉ label) (needle rest : List Char) :
    '.' :: needle <:+: label ++ rest ↔ '.' :: needle <:+: rest := by
  refine ⟨fun inside => ?_,fun inside => inside.trans (List.suffix_append label rest).isInfix⟩
  obtain here | later | ⟨front,back,split,final,first⟩ := List.infix_append_iff.mp inside
  · exact absurd (here.subset List.mem_cons_self) undotted
  · exact later
  · cases front with
    | nil => exact split ▸ first.isInfix
    | cons c front =>
      obtain ⟨rfl,-⟩ := List.cons.inj split
      exact absurd (final.subset List.mem_cons_self) undotted

/-- With a dot after them, two dots meet where a label other than the first is empty. -/
theorem two_dots_concat_iff {label : List Char} (undotted : ∀ l ∈ label :: labels, '.' ∉ l) :
    ['.','.'] <:+: dotted (label :: labels) ++ ['.'] ↔ [] ∈ labels := by
  induction labels generalizing label with
  | nil =>
    rw [dotted,List.intercalate_singleton,infix_append_iff_of_undotted (undotted label List.mem_cons_self)]
    exact iff_of_false (by decide) List.not_mem_nil
  | cons next labels ih =>
    rw [List.forall_mem_cons] at undotted
    have ends : ∃ rest, dotted (next :: labels) ++ ['.'] = next ++ '.' :: rest := by
      by_cases alone : labels = []
      · exact ⟨[],by rw [alone,dotted,List.intercalate_singleton]⟩
      · exact ⟨dotted labels ++ ['.'],by rw [dotted_cons next alone,List.append_assoc,List.cons_append]⟩
    have first : ['.'] <+: dotted (next :: labels) ++ ['.'] ↔ [] = next := by
      obtain ⟨rest,split⟩ := ends
      rw [split,List.singleton_prefix_iff_head?_eq_some,head?_append_dot (undotted.2 next List.mem_cons_self),eq_comm]
    rw [dotted_cons label (List.cons_ne_nil _ _),List.append_assoc,List.cons_append,
      infix_append_iff_of_undotted undotted.1,List.infix_cons_iff,List.cons_prefix_cons,eq_self,true_and,List.mem_cons]
    exact or_congr first (ih undotted.2)

/-- The labels are filled just if no dot stands at an end and no two stand in a row. -/
theorem Labels.filled_iff (made : Labels labels) : (∀ label ∈ labels, label ≠ []) ↔
    labels.head? ≠ some [] ∧ labels.getLast? ≠ some [] ∧ ¬ ['.','.'] <:+: dotted labels := by
  have final : ['.','.'] <:+ dotted labels ++ ['.'] ↔ (dotted labels).getLast? = some '.' := by
    rw [List.suffix_concat_iff,← List.singleton_suffix_iff_getLast?_eq_some]
    constructor
    · rintro (none | ⟨front,split,ends⟩)
      · cases none
      · obtain rfl : front = ['.'] := (List.append_cancel_right (show ['.'] ++ ['.'] = front ++ ['.'] from split)).symm
        exact ends
    · exact fun ends => .inr ⟨['.'],rfl,ends⟩
  obtain ⟨first,later,rfl,-⟩ := made.exists_cons
  have undotted : ∀ label ∈ first :: later, '.' ∉ label := fun label => made.dot_not_mem
  have gap := two_dots_concat_iff undotted
  rw [List.infix_concat_iff,final,made.getLast?_dotted_iff] at gap
  have none : (∀ label ∈ first :: later, label ≠ []) ↔ [] ∉ first :: later :=
    ⟨fun filled inside => filled [] inside rfl,fun empty label listed same => empty (same ▸ listed)⟩
  rw [none,List.mem_cons,← gap,List.head?_cons,Ne,Option.some_inj,eq_comm]
  tauto

end Gaps

/-- The check asks for a dot, but for none at an end, and for characters of labels and dots. -/
theorem isDomain_iff (s : String) : isDomain s = true ↔ s.utf8ByteSize ≤ 253 ∧
    ('.' ∈ s.toList ∧ ∀ c ∈ s.toList, c = '.' ∨ IsLabelChar c) ∧
    s.toList.head? ≠ some '.' ∧ s.toList.getLast? ≠ some '.' := by
  have plain (c : Char) : (c.isAlphanum || c == '.' || c == '-') = true ↔ c = '.' ∨ IsLabelChar c := by
    simp only [Bool.or_eq_true,beq_iff_eq,IsLabelChar]
    tauto
  have filled : '.' ∈ s.toList → s ≠ "" := by
    rintro dot rfl
    cases dot
  simp only [isDomain,Bool.and_eq_true,bne_iff_ne,decide_eq_true_eq,List.contains_iff_mem,List.all_eq_true,plain]
  constructor
  · rintro ⟨⟨⟨⟨⟨-,short⟩,dot⟩,first⟩,last⟩,made⟩
    exact ⟨short,⟨dot,made⟩,first,last⟩
  · rintro ⟨short,⟨dot,made⟩,first,last⟩
    exact ⟨⟨⟨⟨⟨filled dot,short⟩,dot⟩,first⟩,last⟩,made⟩

/-- A text passes for a domain just if it has 253 bytes at most and is made of two labels or more, of which the first and
the last are filled. It is a name just if it passes and has no two dots in a row. -/
theorem isDomain_iff_labels (s : String) :
    (isDomain s = true ↔ s.utf8ByteSize ≤ 253 ∧ ∃ labels, Labels labels ∧ labels.head? ≠ some [] ∧
      labels.getLast? ≠ some [] ∧ s.toList = dotted labels) ∧
    (IsName s ↔ isDomain s = true ∧ ¬ ['.','.'] <:+: s.toList) := by
  have passes : isDomain s = true ↔ s.utf8ByteSize ≤ 253 ∧ ∃ labels, Labels labels ∧ labels.head? ≠ some [] ∧
      labels.getLast? ≠ some [] ∧ s.toList = dotted labels := by
    rw [isDomain_iff,← exists_labels_iff]
    refine and_congr_right fun _ => ?_
    constructor
    · rintro ⟨⟨labels,made,split⟩,first,last⟩
      rw [split,Ne,made.head?_dotted_iff] at first
      rw [split,Ne,made.getLast?_dotted_iff] at last
      exact ⟨labels,made,first,last,split⟩
    · rintro ⟨labels,made,first,last,split⟩
      rw [split,Ne,Ne,made.head?_dotted_iff,made.getLast?_dotted_iff]
      exact ⟨⟨labels,made,rfl⟩,first,last⟩
  refine ⟨passes,?_⟩
  rw [passes,IsName,and_assoc]
  refine and_congr_right fun _ => ?_
  constructor
  · rintro ⟨labels,made,filled,split⟩
    obtain ⟨first,last,apart⟩ := made.filled_iff.mp filled
    exact ⟨⟨labels,made,first,last,split⟩,split ▸ apart⟩
  · rintro ⟨⟨labels,made,first,last,split⟩,apart⟩
    exact ⟨labels,made,made.filled_iff.mpr ⟨first,last,split ▸ apart⟩,split⟩

/-- An empty label between two others passes. -/
theorem gap_passes : isDomain "a..b" = true ∧ ¬ IsName "a..b" := by
  refine ⟨by decide,?_⟩
  rintro ⟨-,labels,made,filled,split⟩
  refine (made.filled_iff.mp filled).2.2 (split ▸ ?_)
  decide

end Recon.Target
