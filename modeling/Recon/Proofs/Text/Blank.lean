import Mathlib.Data.List.DropRight
import Recon.Text.Lines

/-! Texts without blanks at their ends. Trimming takes such a text out of the middle of another. -/
namespace Recon.Text

/-- Characters are looked at one by one. -/
theorem forall_mem_of_all {p : Char → Prop} [DecidablePred p] {cs : List Char}
    (all : cs.all (fun c => decide (p c)) = true) : ∀ c ∈ cs, p c := fun c inside =>
  of_decide_eq_true (List.all_eq_true.mp all c inside)

/-- No blank at either end; there may be some between. -/
structure Trimmed (cs : List Char) : Prop where
  first : ∀ c, cs.head? = some c → isBlank c = false
  last : ∀ c, cs.getLast? = some c → isBlank c = false

variable {cs : List Char}

lemma trim_eq_self (h : Trimmed cs) : trim cs = cs := by
  have front : trimStart cs = cs := by
    cases cs with
    | nil => rfl
    | cons c cs => exact List.dropWhile_cons_of_neg (by simp [h.first c rfl])
  have back : trimEnd cs = cs := by
    refine List.rdropWhile_eq_self_iff.mpr fun filled => ?_
    simp [h.last _ (List.getLast?_eq_some_getLast filled)]
  rw [trim,front,back]

lemma trimmed_trim (cs : List Char) : Trimmed (trim cs) where
  first c h := by
    have lead : (trimStart cs).head? = some c := by
      obtain ⟨rest,whole⟩ : trim cs <+: trimStart cs := List.rdropWhile_prefix isBlank _
      rw [← whole,List.head?_append,h]
      rfl
    have stops := List.head?_dropWhile_not isBlank cs
    rwa [← trimStart,lead] at stops
  last c h := by
    have filled : trim cs ≠ [] := by
      rintro empty
      rw [empty] at h
      cases h
    have stops := List.rdropWhile_last_not isBlank (trimStart cs) filled
    rw [List.getLast?_eq_some_getLast filled,Option.some.injEq] at h
    exact h ▸ Bool.eq_false_iff.mpr stops

lemma trim_eq_self_iff : trim cs = cs ↔ Trimmed cs :=
  ⟨fun same => same ▸ trimmed_trim cs,trim_eq_self⟩

@[simp] lemma trim_trim (cs : List Char) : trim (trim cs) = trim cs := trim_eq_self (trimmed_trim cs)

lemma trim_eq_nil_iff : trim cs = [] ↔ ∀ c ∈ cs, isBlank c = true := by
  constructor
  · intro empty c inside
    have blank : ∀ c ∈ trimStart cs, isBlank c = true := List.rdropWhile_eq_nil_iff.mp empty
    rw [← cs.takeWhile_append_dropWhile,List.mem_append] at inside
    exact inside.elim List.mem_takeWhile_imp (blank c)
  · intro blank
    rw [trim,trimStart,List.dropWhile_eq_nil_iff.mpr blank]
    rfl

lemma trimEnd_eq_nil (blank : ∀ c ∈ cs, isBlank c = true) : trimEnd cs = [] := by
  rw [trimEnd,dropEndWhile,List.dropWhile_eq_nil_iff.mpr (by simpa using blank),List.reverse_nil]

lemma trimEnd_append {mid : List Char} (visible : ∀ c, mid.getLast? = some c → isBlank c = false) (rest : List Char) :
    trimEnd (mid ++ rest) = mid ++ trimEnd rest := by
  have kept : mid.reverse.dropWhile isBlank = mid.reverse := by
    cases back : mid.reverse with
    | nil => rfl
    | cons c front =>
      have last : mid.getLast? = some c := by rw [← List.head?_reverse,back,List.head?_cons]
      exact List.dropWhile_cons_of_neg (by simp [visible c last])
  rw [trimEnd,dropEndWhile,List.reverse_append,List.dropWhile_append,kept]
  split
  · next none =>
    rw [trimEnd,dropEndWhile,List.isEmpty_iff.mp none,List.reverse_reverse,List.reverse_nil,List.append_nil]
  · rw [List.reverse_append,List.reverse_reverse,trimEnd,dropEndWhile]

/-- The blanks in front go, and after a text without blanks at its ends those at the end of the rest. -/
theorem trim_around {front mid : List Char} (blank : ∀ c ∈ front, isBlank c = true) (h : Trimmed mid) (filled : mid ≠ [])
    (rest : List Char) : trim (front ++ (mid ++ rest)) = mid ++ trimEnd rest := by
  have start : trimStart (front ++ (mid ++ rest)) = mid ++ rest := by
    obtain ⟨c,mid,rfl⟩ := List.exists_cons_of_ne_nil filled
    rw [trimStart,List.dropWhile_append_of_pos blank]
    exact List.dropWhile_cons_of_neg (by simp [h.first c rfl])
  rw [trim,start,trimEnd_append h.last]

lemma Trimmed.append_left {front : List Char} (visible : ∀ c ∈ front, isBlank c = false) (h : Trimmed cs)
    (filled : cs ≠ []) : Trimmed (front ++ cs) where
  first c lead := by
    cases front with
    | nil => exact h.first c lead
    | cons d front => exact visible c (Option.some.inj lead ▸ List.mem_cons_self)
  last c final := h.last c (by rwa [List.getLast?_append_of_ne_nil front filled] at final)

lemma trim_isInfix (cs : List Char) : trim cs <:+: cs :=
  (List.rdropWhile_prefix isBlank _).isInfix.trans (List.dropWhile_suffix isBlank).isInfix

end Recon.Text
