import Mathlib.Tactic.SplitIfs
import Recon.Proofs.Codec.Calendar
import Recon.Proofs.Duration.Grammar
import Recon.Proofs.Text.Blank

/-! The written form of a span of time is exact, and no two spans share one. It is read back just if its number has 64
bits, which only numbers of milliseconds and nanoseconds can lack. -/
namespace Recon

namespace Text

lemma decimal_injective : Function.Injective decimal := by
  intro m n same
  have read := congrArg (digitsFrom 10 0) same
  rwa [digitsFrom_decimal,digitsFrom_decimal] at read

end Text

namespace Duration

/-- The unit in which a number of nanoseconds is written: the largest that divides it if it makes whole seconds, and
otherwise milliseconds or nanoseconds. -/
inductive Suits (span : Nat) : Unit → Prop
  | nothing (zero : span = 0) : Suits span .second
  | whole {u : Unit} (some : span ≠ 0) (seconds : Unit.second.nanos ∣ span) (divides : u.nanos ∣ span)
      (largest : ∀ v : Unit, v.nanos ∣ span → v.nanos ≤ u.nanos) : Suits span u
  | milli (divides : Unit.milli.nanos ∣ span) (broken : ¬ Unit.second.nanos ∣ span) : Suits span .milli
  | nano (broken : ¬ Unit.milli.nanos ∣ span) : Suits span .nano

/-- The number in the written form. -/
def count (d : Duration) : Nat := d.nanos / d.unit.nanos

variable (d : Duration)

lemma suits_unit : Suits d.nanos d.unit := by
  unfold unit
  split_ifs with thousandths seconds zero hours minutes
  · exact .nano (mt Nat.mod_eq_zero_of_dvd thousandths)
  · exact .milli (Nat.dvd_of_mod_eq_zero (not_not.mp thousandths)) (mt Nat.mod_eq_zero_of_dvd seconds)
  · exact .nothing zero
  all_goals
    have whole := Nat.dvd_of_mod_eq_zero (not_not.mp seconds)
    refine .whole zero whole (by simp only [Unit.nanos] at *; omega) fun v divides => ?_
    cases v <;> simp only [Unit.nanos] at * <;> omega

lemma Suits.divides {span : Nat} {u : Unit} (h : Suits span u) : u.nanos ∣ span := by
  cases h with
  | nothing zero => exact zero ▸ Nat.dvd_zero _
  | whole _ _ divides _ => exact divides
  | milli divides _ => exact divides
  | nano _ => exact Nat.one_dvd span

lemma Unit.nanos_injective : Function.Injective Unit.nanos := by
  intro u v same
  cases u <;> cases v <;> simp_all [Unit.nanos]

lemma milli_dvd_of_second_dvd {span : Nat} (h : Unit.second.nanos ∣ span) : Unit.milli.nanos ∣ span :=
  Nat.dvd_trans ⟨1000,rfl⟩ h

lemma Suits.second_le {span : Nat} {u : Unit} (h : Suits span u) (seconds : Unit.second.nanos ∣ span) :
    Unit.second.nanos ≤ u.nanos := by
  cases h with
  | nothing _ => exact Nat.le_refl _
  | whole _ _ _ largest => exact largest _ seconds
  | milli _ broken => exact absurd seconds broken
  | nano broken => exact absurd (milli_dvd_of_second_dvd seconds) broken

/-- Only one unit suits. -/
theorem Suits.unique {span : Nat} {u v : Unit} (h : Suits span u) (h' : Suits span v) : u = v := by
  cases h with
  | nothing zero =>
    subst zero
    cases h' with
    | nothing _ => rfl
    | whole some _ _ _ => exact absurd rfl some
    | milli _ broken => exact absurd (Nat.dvd_zero _) broken
    | nano broken => exact absurd (Nat.dvd_zero _) broken
  | whole some seconds divides largest =>
    cases h' with
    | nothing zero => exact absurd zero some
    | whole _ _ divides' largest' =>
      exact Unit.nanos_injective (Nat.le_antisymm (largest' _ divides) (largest _ divides'))
    | milli _ broken => exact absurd seconds broken
    | nano broken => exact absurd (milli_dvd_of_second_dvd seconds) broken
  | milli divides broken =>
    cases h' with
    | nothing zero => exact absurd (zero ▸ Nat.dvd_zero _) broken
    | whole _ seconds _ _ => exact absurd seconds broken
    | milli _ _ => rfl
    | nano broken' => exact absurd divides broken'
  | nano broken =>
    cases h' with
    | nothing zero => exact absurd (zero ▸ Nat.dvd_zero _) broken
    | whole _ seconds _ _ => exact absurd (milli_dvd_of_second_dvd seconds) broken
    | milli divides _ => exact absurd divides broken
    | nano _ => rfl

lemma count_mul : d.count * d.unit.nanos = d.nanos := Nat.div_mul_cancel d.suits_unit.divides

lemma text_eq : d.text = Text.decimal d.count ++ d.unit.symbol := rfl

lemma Unit.symbol_injective : Function.Injective Unit.symbol := by
  intro u v same
  cases u <;> cases v <;> simp_all [Unit.symbol]

lemma Unit.names_symbol (u : Unit) : Names (Text.trim u.symbol) u := by
  cases u <;> constructor

lemma Unit.not_isBlank_of_mem_symbol (u : Unit) {c : Char} (h : c ∈ u.symbol) : Text.isBlank c = false := by
  have shown : u.symbol.all (fun c => !Text.isBlank c) = true := by cases u <;> rfl
  simpa using List.all_eq_true.mp shown c h

lemma Unit.not_isNumeric_of_head?_symbol (u : Unit) {c : Char} (h : u.symbol.head? = some c) :
    Text.isNumeric c = false := by
  cases u <;> cases h <;> decide

lemma trim_text : Text.trim d.text = d.text := by
  have shown : ∀ c ∈ d.text, Text.isBlank c = false := by
    intro c h
    rw [text_eq,List.mem_append] at h
    obtain digit | letter := h
    · exact Text.not_isBlank_of_isDigit (Text.isDigit_of_mem_decimal digit)
    · exact d.unit.not_isBlank_of_mem_symbol letter
  exact Text.trim_eq_self ⟨fun c h => shown c (List.mem_of_head? h),fun c h => shown c (List.mem_of_getLast? h)⟩

lemma parted_text : Parted d.text (Text.decimal d.count) d.unit.symbol where
  together := d.trim_text
  numeric _ h := Text.isNumeric_of_isDigit (Text.isDigit_of_mem_decimal h)
  ends _ := d.unit.not_isNumeric_of_head?_symbol

/-- No two spans have the same written form. -/
theorem text_injective : Function.Injective text := by
  intro d d' same
  obtain ⟨numbers,units⟩ := d.parted_text.unique (same ▸ d'.parted_text)
  have counts : d.count = d'.count := Text.decimal_injective numbers
  apply Duration.ext
  rw [← d.count_mul,← d'.count_mul,counts,Unit.symbol_injective units]

lemma numeral_decimal_iff {n : Nat} : Numeral (Text.decimal n) n ↔ n < UInt64.size := by
  have digits : ∀ c ∈ Text.decimal n, c.isDigit = true := fun c => Text.isDigit_of_mem_decimal
  have value : Nat.ofDigitChars 10 (Text.decimal n) 0 = n := Nat.ofDigitChars_ten_toDigits
  exact ⟨Numeral.held,fun held => ⟨Text.decimal_ne_nil n,digits,value,held⟩⟩

lemma spells_text (held : d.count < UInt64.size) : Spells d.text d.count d.unit :=
  ⟨_,_,d.parted_text,numeral_decimal_iff.mpr held,d.unit.names_symbol⟩

lemma read_text_of_held (held : d.count < UInt64.size) : read d.text = .ok d := by
  have fits : Fits d.count d.unit := (fits_iff held d.unit).mpr (d.count_mul ▸ d.nanos_lt)
  exact (Reads.span (d.spells_text held) fits d.count_mul.symm).read_eq

lemma read_text_of_large (large : UInt64.size ≤ d.count) : read d.text = .error (.invalidNumber d.text) := by
  have illegible : Illegible (Text.decimal d.count) := .inr (.inr (large.trans_eq Nat.ofDigitChars_ten_toDigits.symm))
  have reads := Reads.invalidNumber d.parted_text illegible
  rw [trim_text] at reads
  exact reads.read_eq

lemma read_text_eq_ok_iff : read d.text = .ok d ↔ d.count < UInt64.size := by
  refine ⟨fun read => ?_,d.read_text_of_held⟩
  by_contra large
  rw [d.read_text_of_large (Nat.le_of_not_lt large)] at read
  cases read

/-- Seconds, minutes and hours always have 64 bits. -/
theorem count_lt (seconds : Unit.second.nanos ≤ d.unit.nanos) : d.count < UInt64.size := by
  have whole := d.count_mul
  have held := d.nanos_lt
  cases unit : d.unit <;> rw [unit] at whole seconds <;> simp only [Unit.nanos,limit] at * <;> omega

/-- A span is written as a number and the unit that suits it, which together are exactly the span, so that spans that
differ are written differently. The text is read back just if the number has 64 bits, as it has with hours, minutes and
seconds, and otherwise its number is called invalid. -/
theorem text_exact : (∀ d : Duration, ∃ n u, d.text = Text.decimal n ++ u.symbol ∧ n * u.nanos = d.nanos ∧
      Suits d.nanos u ∧ (read d.text = .ok d ↔ n < UInt64.size) ∧
      (Unit.second.nanos ≤ u.nanos → n < UInt64.size) ∧
      (UInt64.size ≤ n → read d.text = .error (.invalidNumber d.text))) ∧
    Function.Injective text :=
  ⟨fun d => ⟨d.count,d.unit,d.text_eq,d.count_mul,d.suits_unit,d.read_text_eq_ok_iff,d.count_lt,d.read_text_of_large⟩,
    text_injective⟩

example : Duration.zero.text = ['0','s'] := rfl

/-- The shortest span that is not read back, and the longest of whole hours, which is. -/
theorem text_exact_longest :
    (∃ (d : Duration) (n : Nat), d.nanos = UInt64.size ∧ d.text = Text.decimal n ++ Unit.nano.symbol ∧ UInt64.size ≤ n ∧
      read d.text = .error (.invalidNumber d.text)) ∧
    ∃ (d : Duration) (n : Nat), d.nanos = 5124095576030431 * Unit.hour.nanos ∧
      d.text = Text.decimal n ++ Unit.hour.symbol ∧ Unit.second.nanos ≤ Unit.hour.nanos ∧ n < UInt64.size ∧
      read d.text = .ok d := by
  constructor
  · obtain ⟨n,u,written,whole,suits,-,-,large⟩ := text_exact.1 ⟨UInt64.size,by decide⟩
    obtain rfl := suits.unique (.nano (by decide))
    have all : UInt64.size ≤ n := (whole.symm.trans (Nat.mul_one n)).le
    exact ⟨_,n,rfl,written,all,large all⟩
  · obtain ⟨n,u,written,-,suits,reads,small,-⟩ := text_exact.1 ⟨5124095576030431 * Unit.hour.nanos,by decide⟩
    obtain rfl := suits.unique (.whole (by decide) (by decide) (Nat.dvd_mul_left _ _) fun v _ => by cases v <;> decide)
    have held := small (by decide)
    exact ⟨_,n,rfl,written,by decide,held,reads.mpr held⟩

end Duration
end Recon
