import Mathlib.Tactic.Lemma
import Recon.Text.Decimal
import Recon.Text.Classes

/-! Decimal texts are runs of digits, without needless zeros unless padded, and are read back as the number that
was written. -/
namespace Recon.Text

lemma toNat_lt_of_isDigit {c : Char} (h : c.isDigit = true) : c.toNat < 128 := by
  simp only [Char.isDigit,Bool.and_eq_true,decide_eq_true_eq,UInt32.le_iff_toNat_le] at h
  exact Nat.lt_of_le_of_lt h.2 (by decide)

lemma isDecimalDigit_of_isDigit {c : Char} (h : c.isDigit = true) : isDecimalDigit c = true := by
  rw [isDecimalDigit,if_pos (toNat_lt_of_isDigit h),h]

lemma digitsFrom_append (base acc : Nat) (cs ds : List Char) :
    digitsFrom base acc (cs ++ ds) = digitsFrom base (digitsFrom base acc cs) ds := by
  induction cs generalizing acc with
  | nil => rfl
  | cons c cs ih => exact ih _

lemma digitsFrom_eq_ofDigitChars {cs : List Char} (digits : ∀ c ∈ cs, c.isDigit = true) (acc : Nat) :
    digitsFrom 10 acc cs = Nat.ofDigitChars 10 cs acc := by
  induction cs generalizing acc with
  | nil => rfl
  | cons c cs ih =>
    rw [List.forall_mem_cons] at digits
    rw [Nat.ofDigitChars_cons,digitsFrom,digitsFrom.digitValue,if_pos digits.1,Nat.mul_comm]
    exact ih digits.2 _

lemma readNat?_eq_some_iff {cs : List Char} {n : Nat} : readNat? cs = some n ↔
    cs ≠ [] ∧ (∀ c ∈ cs, c.isDigit = true) ∧ Nat.ofDigitChars 10 cs 0 = n := by
  unfold readNat?
  split
  · next bad =>
    simp only [reduceCtorEq,false_iff]
    rintro ⟨filled,digits,-⟩
    simp [filled,List.all_eq_true.mpr digits] at bad
  · next good =>
    obtain ⟨filled,digits⟩ : cs ≠ [] ∧ ∀ c ∈ cs, c.isDigit = true := by simpa using good
    rw [digitsFrom_eq_ofDigitChars digits,Option.some.injEq]
    exact ⟨fun value => ⟨filled,digits,value⟩,fun h => h.2.2⟩

lemma readNat?_digits {digits : List Char} (filled : digits ≠ []) (digital : ∀ d ∈ digits, d.isDigit = true) :
    readNat? digits = some (digitsFrom 10 0 digits) := by
  rw [readNat?,List.all_eq_true.mpr digital]
  simp [filled]

lemma isDigit_of_mem_decimal {n : Nat} {c : Char} (h : c ∈ decimal n) : c.isDigit = true :=
  Nat.isDigit_of_mem_toDigits (by decide) (by decide) h

lemma decimal_ne_nil (n : Nat) : decimal n ≠ [] := Nat.toDigits_ne_nil

@[simp] lemma digitsFrom_decimal (n : Nat) : digitsFrom 10 0 (decimal n) = n := by
  rw [digitsFrom_eq_ofDigitChars fun c => isDigit_of_mem_decimal]
  exact Nat.ofDigitChars_ten_toDigits

/-- Only zero is written with a zero in front. -/
theorem eq_zero_of_head?_decimal {n : Nat} (h : (decimal n).head? = some '0') : n = 0 := by
  induction n using Nat.strongRecOn with
  | ind n ih =>
    unfold decimal at h
    by_cases hn : n < 10
    · rw [Nat.toDigits_of_lt_base hn] at h
      have hd : n.digitChar = '0' := by simpa using h
      exact Nat.digitChar_eq_zero.mp hd
    · obtain ⟨c,cs,front⟩ := List.exists_cons_of_ne_nil (Nat.toDigits_ne_nil (n := n / 10) (b := 10))
      rw [Nat.toDigits_of_base_le (by decide) (Nat.le_of_not_lt hn),front] at h
      have hq := ih (n / 10) (by omega) (by unfold decimal; rw [front]; exact h)
      omega

lemma length_decimal_le {n width : Nat} (positive : 0 < width) (h : n < tenTo width) :
    (decimal n).length ≤ width :=
  (Nat.length_toDigits_le_iff (by decide) positive).mpr h

lemma isDigit_of_mem_decimalPadded {width n : Nat} {c : Char} (h : c ∈ decimalPadded width n) :
    c.isDigit = true := by
  unfold decimalPadded at h
  obtain h | h := List.mem_append.mp h
  · rw [List.eq_of_mem_replicate h]
    rfl
  · exact isDigit_of_mem_decimal h

lemma length_decimalPadded {n width : Nat} (positive : 0 < width) (h : n < tenTo width) :
    (decimalPadded width n).length = width := by
  have hl := length_decimal_le positive h
  unfold decimalPadded
  rw [List.length_append,List.length_replicate]
  omega

@[simp] lemma digitsFrom_decimalPadded (width n : Nat) : digitsFrom 10 0 (decimalPadded width n) = n := by
  unfold decimalPadded
  have zeros (k : Nat) : digitsFrom 10 0 (List.replicate k '0') = 0 := by
    induction k with
    | zero => rfl
    | succ k ih => exact ih
  rw [digitsFrom_append,zeros,digitsFrom_decimal]

end Recon.Text
