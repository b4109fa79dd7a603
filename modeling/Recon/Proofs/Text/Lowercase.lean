import Recon.Proofs.Text.Blank
import Recon.Text.Lowercase

/-! Lower case is final: no character of a text in lower case changes again. White space has no case, so a text begins
and ends with a blank in lower case just if it does so before. -/
namespace Recon.Text

/-- A character that stands for itself in lower case, wherever it is. -/
structure IsLower (c : Char) : Prop where
  alone : lowerChar c = [c]
  steady : c ≠ '\u03a3'

/-- `d` comes out of `c` in lower case: it is in lower case, and no blank unless it is that very character. -/
structure Lowers (c d : Char) : Prop where
  isLower : IsLower d
  blank : isBlank d = true → d = c

instance (c : Char) : Decidable (IsLower c) :=
  decidable_of_iff (lowerChar c = [c] ∧ c ≠ '\u03a3') ⟨fun h => ⟨h.1,h.2⟩,fun h => ⟨h.1,h.2⟩⟩

instance (c d : Char) : Decidable (Lowers c d) :=
  decidable_of_iff (IsLower d ∧ (isBlank d = true → d = c)) ⟨fun h => ⟨h.1,h.2⟩,fun h => ⟨h.1,h.2⟩⟩

section Runs

/-- A code is its own lower case, or it is in a run and moves with it. -/
theorem lowerCode_cases (runs : List (Nat × Nat × Nat × Nat)) (n : Nat) : lowerCode runs n = n ∨
    ∃ lo hi step low, (lo,hi,step,low) ∈ runs ∧ lo ≤ n ∧ n ≤ hi ∧ (n - lo) % step = 0 ∧
      lowerCode runs n = low + (n - lo) := by
  induction runs with
  | nil => exact .inl rfl
  | cons run runs ih =>
    obtain ⟨lo,hi,step,low⟩ := run
    have later : lowerCode runs n = n ∨ ∃ lo' hi' step' low', (lo',hi',step',low') ∈ (lo,hi,step,low) :: runs ∧
        lo' ≤ n ∧ n ≤ hi' ∧ (n - lo') % step' = 0 ∧ lowerCode runs n = low' + (n - lo') := by
      obtain same | ⟨lo',hi',step',low',inside,rest⟩ := ih
      · exact .inl same
      · exact .inr ⟨lo',hi',step',low',List.mem_cons_of_mem _ inside,rest⟩
    rw [lowerCode]
    split
    · exact .inl rfl
    · next above =>
      split
      · next below =>
        split
        · next divides => exact .inr ⟨lo,hi,step,low,List.mem_cons_self,Nat.le_of_not_lt above,below,divides,rfl⟩
        · exact later
      · exact later

/-- No capital of the runs lies between two codes, or none at an even distance from the first of them. -/
def noCapital (first last : Nat) (even : Bool) : List (Nat × Nat × Nat × Nat) → Bool
  | [] => true
  | (lo,hi,step,_) :: runs =>
    last.blt lo || (hi.blt first || step.beq 2 && even && ((first + lo) % 2).beq 1) && noCapital first last even runs

lemma lowerCode_eq_self {first last : Nat} {even : Bool} {n : Nat} {runs : List (Nat × Nat × Nat × Nat)}
    (none : noCapital first last even runs = true) (from' : first ≤ n) (upTo : n ≤ last)
    (distance : even = true → (n - first) % 2 = 0) : lowerCode runs n = n := by
  induction runs with
  | nil => rfl
  | cons run runs ih =>
    obtain ⟨lo,hi,step,low⟩ := run
    simp only [noCapital,Bool.or_eq_true,Bool.and_eq_true,Nat.blt_eq,Nat.beq_eq] at none
    rw [lowerCode]
    split
    · rfl
    · next above =>
      obtain beyond | ⟨apart,later⟩ := none
      · omega
      · split
        · next below =>
          obtain before | ⟨⟨rfl,isEven⟩,odd⟩ := apart
          · omega
          · have := distance isEven
            rw [if_neg (by omega),ih later]
        · exact ih later

/-- Codes that no run leads to: blanks, what still changes in lower case, and what is no character. -/
def unreached : Ranges :=
  [(0,0x60),(0x85,0x85),(0xA0,0xA0),(0x130,0x130),(0x3A3,0x3A3),(0x1680,0x1680),(0x2000,0x200A),(0x2028,0x2029),
    (0x202F,0x202F),(0x205F,0x205F),(0x3000,0x3000),(0xD800,0xDFFF)]

lemma capitalRuns_lead_down : (capitalRuns.all fun (lo,hi,step,low) =>
    noCapital low (low + (hi - lo)) (step.beq 2 || lo.beq hi) capitalRuns && (low + (hi - lo)).blt 0x110000 &&
      unreached.all fun (first,last) => (low + (hi - lo)).blt first || last.blt low) = true := by
  decide +kernel

/-- Where a code of a run moves to, it stays, and there is a character. -/
theorem settles_of_mem_capitalRuns {lo hi step low n : Nat} (inside : (lo,hi,step,low) ∈ capitalRuns) (above : lo ≤ n)
    (below : n ≤ hi) (divides : (n - lo) % step = 0) :
    lowerCode capitalRuns (low + (n - lo)) = low + (n - lo) ∧ low + (n - lo) < 0x110000 ∧
      ∀ gap ∈ unreached, low + (n - lo) < gap.1 ∨ gap.2 < low + (n - lo) := by
  have table := List.all_eq_true.mp capitalRuns_lead_down _ inside
  simp only [Bool.and_eq_true,List.all_eq_true,Bool.or_eq_true,Nat.blt_eq] at table
  obtain ⟨⟨clear,small⟩,apart⟩ := table
  refine ⟨lowerCode_eq_self clear (by omega) (by omega) fun even => ?_,by omega,fun gap listed => ?_⟩
  · simp only [Bool.or_eq_true,Nat.beq_eq] at even
    obtain rfl | rfl := even
    · omega
    · omega
  · have := apart _ listed
    omega

end Runs

lemma isLower_ascii : ∀ n < 128, 0x60 < n → IsLower (Char.ofNat n) := by
  decide +kernel

lemma lowers_toLower : ∀ n < 128, Lowers (Char.ofNat n) (Char.ofNat n).toLower := by
  decide +kernel

/-- Beyond ASCII only the two capitals with a rule of their own are not told by their codes. -/
theorem isLower_of_lowerCode {c : Char} (beyond : 128 ≤ c.toNat) (plain : c ≠ '\u0130') (steady : c ≠ '\u03a3')
    (stays : lowerCode capitalRuns c.toNat = c.toNat) : IsLower c where
  alone := by rw [lowerChar,if_neg (Nat.not_lt.mpr beyond),if_neg plain,stays,Char.ofNat_toNat]
  steady := steady

/-- A capital beyond ASCII goes to a letter in lower case. -/
theorem lowers_of_mem_capitalRuns {c : Char} {lo hi step low : Nat} (inside : (lo,hi,step,low) ∈ capitalRuns)
    (above : lo ≤ c.toNat) (below : c.toNat ≤ hi) (divides : (c.toNat - lo) % step = 0) :
    Lowers c (Char.ofNat (low + (c.toNat - lo))) := by
  obtain ⟨stays,small,apart⟩ := settles_of_mem_capitalRuns inside above below divides
  generalize low + (c.toNat - lo) = m at stays small apart
  simp only [unreached,List.forall_mem_cons] at apart
  have valid : m.isValidChar := by
    unfold Nat.isValidChar
    omega
  have code : (Char.ofNat m).toNat = m := by
    rw [Char.ofNat,dif_pos valid]
    rfl
  have other (d : Char) (h : m ≠ d.toNat) : Char.ofNat m ≠ d := fun same => h (code ▸ congrArg Char.toNat same)
  refine ⟨?_,fun blank => ?_⟩
  · by_cases ascii : m < 128
    · exact isLower_ascii m ascii (by omega)
    · refine isLower_of_lowerCode (by omega) (other _ ?_) (other _ ?_) (by rw [code,stays])
      · have : '\u0130'.toNat = 0x130 := rfl
        omega
      · have : '\u03a3'.toNat = 0x3A3 := rfl
        omega
  · simp only [isBlank,code,Bool.or_eq_true,Bool.and_eq_true,decide_eq_true_eq,beq_iff_eq] at blank
    omega

/-- The letters that the capitals with a rule of their own come to. -/
theorem lowers_special : (∀ d ∈ ['i','\u0307'], Lowers '\u0130' d) ∧ Lowers '\u03a3' '\u03c2' ∧
    Lowers '\u03a3' '\u03c3' := by
  have stays : ∀ n ∈ [0x307,0x3c2,0x3c3], lowerCode capitalRuns n = n := by decide +kernel
  simp only [List.forall_mem_cons] at stays
  obtain ⟨accent,final,inner,-⟩ := stays
  have bare (c d : Char) (h : IsLower d) (visible : isBlank d = false) : Lowers c d :=
    ⟨h,fun blank => absurd blank (by simp [visible])⟩
  refine ⟨?_,bare _ _ ?_ rfl,bare _ _ ?_ rfl⟩
  · simp only [List.forall_mem_cons]
    refine ⟨bare _ _ (isLower_ascii 0x69 (by decide) (by decide)) rfl,bare _ _ ?_ rfl,nofun⟩
    exact isLower_of_lowerCode (by decide) (by decide) (by decide) accent
  · exact isLower_of_lowerCode (by decide) (by decide) (by decide) final
  · exact isLower_of_lowerCode (by decide) (by decide) (by decide) inner

lemma lowers_of_mem_lowerChar {c d : Char} (steady : c ≠ '\u03a3') (h : d ∈ lowerChar c) : Lowers c d := by
  unfold lowerChar at h
  split at h
  · next ascii =>
    obtain rfl := List.mem_singleton.mp h
    simpa only [Char.ofNat_toNat] using lowers_toLower c.toNat ascii
  · next beyond =>
    split at h
    · next dotted => exact dotted ▸ lowers_special.1 d h
    · next plain =>
      obtain rfl := List.mem_singleton.mp h
      obtain same | ⟨lo,hi,step,low,inside,above,below,divides,moves⟩ := lowerCode_cases capitalRuns c.toNat
      · rw [same,Char.ofNat_toNat]
        exact ⟨isLower_of_lowerCode (Nat.le_of_not_lt beyond) plain steady same,fun _ => rfl⟩
      · rw [moves]
        exact lowers_of_mem_capitalRuns inside above below divides

lemma lowerChar_ne_nil (c : Char) : lowerChar c ≠ [] := by
  unfold lowerChar
  split
  · exact List.cons_ne_nil _ _
  · split
    · exact List.cons_ne_nil _ _
    · exact List.cons_ne_nil _ _

/-- Every character comes to some characters of its own, whatever stands around it. -/
theorem exists_lowerAfter_cons (before : List Char) (c : Char) (rest : List Char) : ∃ own, own ≠ [] ∧
    (∀ d ∈ own, Lowers c d) ∧ lowerAfter before (c :: rest) = own ++ lowerAfter (c :: before) rest := by
  refine ⟨_,?_,?_,rfl⟩
  · split
    · split
      · exact List.cons_ne_nil _ _
      · exact List.cons_ne_nil _ _
    · exact lowerChar_ne_nil c
  · intro d h
    split at h
    · next sigma =>
      subst sigma
      split at h
      · exact List.mem_singleton.mp h ▸ lowers_special.2.1
      · exact List.mem_singleton.mp h ▸ lowers_special.2.2
    · next steady => exact lowers_of_mem_lowerChar steady h

lemma exists_lowers_of_mem_lowerAfter {before cs : List Char} {d : Char} (h : d ∈ lowerAfter before cs) :
    ∃ c ∈ cs, Lowers c d := by
  induction cs generalizing before with
  | nil => cases h
  | cons c cs ih =>
    obtain ⟨own,-,lowers,split⟩ := exists_lowerAfter_cons before c cs
    rw [split,List.mem_append] at h
    obtain here | later := h
    · exact ⟨c,List.mem_cons_self,lowers d here⟩
    · obtain ⟨c',inside,lower⟩ := ih later
      exact ⟨c',List.mem_cons_of_mem _ inside,lower⟩

lemma isLower_of_mem_lower {cs : List Char} {d : Char} (h : d ∈ lower cs) : IsLower d := by
  obtain ⟨c,-,lowers⟩ := exists_lowers_of_mem_lowerAfter h
  exact lowers.isLower

/-- A text whose characters are all in lower case stays as it is. -/
theorem lower_eq_self {cs : List Char} (h : ∀ c ∈ cs, IsLower c) : lower cs = cs := by
  have anywhere (before : List Char) : lowerAfter before cs = cs := by
    induction cs generalizing before with
    | nil => rfl
    | cons c cs ih =>
      rw [List.forall_mem_cons] at h
      rw [lowerAfter,if_neg h.1.steady,h.1.alone,ih h.2]
      rfl
  exact anywhere []

@[simp] lemma lower_lower (cs : List Char) : lower (lower cs) = lower cs :=
  lower_eq_self fun _ => isLower_of_mem_lower

/-- A blank in a text in lower case was there before. -/
theorem mem_of_mem_lower {cs : List Char} {d : Char} (h : d ∈ lower cs) (blank : isBlank d = true) : d ∈ cs := by
  obtain ⟨c,inside,lowers⟩ := exists_lowers_of_mem_lowerAfter h
  exact lowers.blank blank ▸ inside

lemma lowerAfter_cons_ne_nil (before : List Char) (c : Char) (cs : List Char) : lowerAfter before (c :: cs) ≠ [] := by
  obtain ⟨own,filled,-,split⟩ := exists_lowerAfter_cons before c cs
  rw [split]
  exact List.append_ne_nil_of_left_ne_nil filled _

lemma head?_of_head?_lower {cs : List Char} {d : Char} (h : (lower cs).head? = some d) (blank : isBlank d = true) :
    cs.head? = some d := by
  cases cs with
  | nil => cases h
  | cons c cs =>
    obtain ⟨own,filled,lowers,split⟩ := exists_lowerAfter_cons [] c cs
    obtain ⟨e,more,rfl⟩ := List.exists_cons_of_ne_nil filled
    rw [lower,split] at h
    obtain rfl := Option.some.inj h
    rw [(lowers e List.mem_cons_self).blank blank]
    rfl

lemma getLast?_of_getLast?_lowerAfter {before cs : List Char} {d : Char}
    (h : (lowerAfter before cs).getLast? = some d) (blank : isBlank d = true) : cs.getLast? = some d := by
  induction cs generalizing before with
  | nil => cases h
  | cons c cs ih =>
    obtain ⟨own,-,lowers,split⟩ := exists_lowerAfter_cons before c cs
    rw [split,List.getLast?_append] at h
    cases cs with
    | nil =>
      have here : own.getLast? = some d := h
      rw [(lowers d (List.mem_of_getLast? here)).blank blank]
      rfl
    | cons c' cs =>
      rw [List.getLast?_eq_some_getLast (lowerAfter_cons_ne_nil _ c' cs),Option.some_or,
        ← List.getLast?_eq_some_getLast] at h
      rw [List.getLast?_cons_cons]
      exact ih h

lemma Trimmed.lower {cs : List Char} (h : Trimmed cs) : Trimmed (lower cs) where
  first d lead := Bool.eq_false_iff.mpr fun blank =>
    Bool.eq_false_iff.mp (h.first d (head?_of_head?_lower lead blank)) blank
  last d final := Bool.eq_false_iff.mpr fun blank =>
    Bool.eq_false_iff.mp (h.last d (getLast?_of_getLast?_lowerAfter final blank)) blank

end Recon.Text
