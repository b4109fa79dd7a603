import Mathlib.Data.List.TakeWhile
import Recon.Moment
import Recon.Proofs.Text.Decimal

/-! A point in time is read back from its written form. Each part of the text ends where the next one begins, at a
character that is no digit or after as many digits as the part can have. -/
namespace Recon

lemma Text.not_isBlank_of_isDigit {c : Char} (h : c.isDigit = true) : Text.isBlank c = false := by
  simp only [Char.isDigit,Bool.and_eq_true,decide_eq_true_eq,ge_iff_le,UInt32.le_iff_toNat_le] at h
  have low : 48 ≤ c.toNat := h.1
  have high : c.toNat ≤ 57 := h.2
  simp only [Text.isBlank,Bool.or_eq_false_iff,Bool.and_eq_false_iff,beq_eq_false_iff_ne,decide_eq_false_iff_not]
  omega

lemma Text.trimStart_cons {c : Char} {cs : List Char} (h : Text.isBlank c = false) :
    Text.trimStart (c :: cs) = c :: cs := by
  simp [Text.trimStart,h]

namespace Moment

/-- A time on a day of the calendar. Only the last second of a minute can be a leap second. -/
structure OnCalendar (t : Moment) : Prop where
  date : isDate t.year t.month t.day = true
  hour : t.hour < 24
  minute : t.minute < 60
  second : t.second < 60
  nano : t.nano < nanosPerSecond ∨ (t.second = 59 ∧ t.nano < 2 * nanosPerSecond)

section Parts

variable {width : Nat} {ds : List Char}

/-- A run of digits is taken up to the width, or up to a character that is no digit. -/
theorem number?_append (rest : List Char) (digits : ∀ c ∈ ds, c.isDigit = true) (filled : ds ≠ [])
    (fits : ds.length ≤ width) (stops : ds.length = width ∨ ∀ c, rest.head? = some c → c.isDigit = false) :
    number? width (ds ++ rest) = some (Text.digitsFrom 10 0 ds,rest) := by
  obtain ⟨c,cs,rfl⟩ := List.exists_cons_of_ne_nil filled
  have shown : Text.trimStart (c :: cs ++ rest) = c :: cs ++ rest :=
    Text.trimStart_cons (Text.not_isBlank_of_isDigit (digits c List.mem_cons_self))
  have later : (rest.take (width - (c :: cs).length)).takeWhile Char.isDigit = [] := by
    obtain full | ends := stops
    · rw [full,Nat.sub_self]
      rfl
    · cases rest with
      | nil => simp
      | cons d rest =>
        have hd := ends d rfl
        cases width - (c :: cs).length with
        | zero => rfl
        | succ k => simp [hd]
  have taken : ((c :: cs ++ rest).take width).takeWhile Char.isDigit = c :: cs := by
    rw [List.take_append,List.take_of_length_le fits,
      List.takeWhile_append_of_pos digits,later,List.append_nil]
  unfold number?
  simp only [shown,taken]
  simp

lemma number?_two {n : Nat} (h : n < 100) (rest : List Char) :
    number? 2 (Text.decimalPadded 2 n ++ rest) = some (n,rest) := by
  have length : (Text.decimalPadded 2 n).length = 2 := Text.length_decimalPadded (by decide) h
  have filled : Text.decimalPadded 2 n ≠ [] := by
    intro empty
    rw [empty] at length
    cases length
  have read := number?_append rest (fun _ => Text.isDigit_of_mem_decimalPadded) filled length.le (.inl length)
  rwa [Text.digitsFrom_decimalPadded] at read

lemma separator?_cons {c : Char} (h : Text.isBlank c = false) (cs : List Char) :
    separator? c (c :: cs) = some cs := by
  rw [separator?,Text.trimStart_cons h]
  exact if_pos rfl

end Parts

lemma ends_at_hyphen (rest : List Char) : ∀ c, ('-' :: rest).head? = some c → c.isDigit = false := by
  intro c h
  rw [← Option.some.inj h]
  decide

lemma decimalPadded_cons (width n : Nat) :
    ∃ c cs, Text.decimalPadded width n = c :: cs ∧ c.isDigit = true := by
  have filled : Text.decimalPadded width n ≠ [] := List.append_ne_nil_of_right_ne_nil _ (Text.decimal_ne_nil n)
  obtain ⟨c,cs,front⟩ := List.exists_cons_of_ne_nil filled
  have inside : c ∈ Text.decimalPadded width n := by
    rw [front]
    exact List.mem_cons_self
  exact ⟨c,cs,front,Text.isDigit_of_mem_decimalPadded inside⟩

/-- After a sign the year may have any number of digits. -/
theorem number?_year (n : Nat) (rest : List Char) :
    number? (Text.decimalPadded 4 n ++ '-' :: rest).length (Text.decimalPadded 4 n ++ '-' :: rest) =
      some (n,'-' :: rest) := by
  obtain ⟨c,cs,front,-⟩ := decimalPadded_cons 4 n
  have filled : Text.decimalPadded 4 n ≠ [] := by
    rw [front]
    exact List.cons_ne_nil c cs
  have fits : (Text.decimalPadded 4 n).length ≤ (Text.decimalPadded 4 n ++ '-' :: rest).length := by simp
  have read := number?_append ('-' :: rest) (fun _ => Text.isDigit_of_mem_decimalPadded) filled fits
    (.inr (ends_at_hyphen rest))
  rwa [Text.digitsFrom_decimalPadded] at read

/-- The year ends before the hyphen that follows it. -/
theorem year?_yearText (y : Int) (rest : List Char) :
    year? (yearText y ++ '-' :: rest) = some (y,'-' :: rest) := by
  unfold yearText
  obtain ⟨c,cs,front,digit⟩ := decimalPadded_cons 4 y.natAbs
  have starts : year?.startsWithDigit (Text.decimalPadded 4 y.natAbs ++ '-' :: rest) = true := by
    rw [front]
    exact digit
  split
  · rename_i plain
    have same : y.toNat = y.natAbs := by omega
    have value : ((y.natAbs : Nat) : Int) = y := by omega
    have small : y.natAbs < 10000 := by omega
    have length : (Text.decimalPadded 4 y.natAbs).length = 4 := Text.length_decimalPadded (by decide) small
    have read : number? 4 (Text.decimalPadded 4 y.natAbs ++ '-' :: rest) = some (y.natAbs,'-' :: rest) := by
      have h := number?_append ('-' :: rest) (fun _ => Text.isDigit_of_mem_decimalPadded)
        (front ▸ List.cons_ne_nil c cs) length.le (.inl length)
      rwa [Text.digitsFrom_decimalPadded] at h
    have shown : Text.trimStart (Text.decimalPadded 4 y.natAbs ++ '-' :: rest) =
        Text.decimalPadded 4 y.natAbs ++ '-' :: rest := by
      rw [front]
      exact Text.trimStart_cons (Text.not_isBlank_of_isDigit digit)
    rw [same,year?,shown]
    split
    · rename_i h
      rw [front] at h
      cases h
      exact absurd digit (by decide)
    · rename_i h
      rw [front] at h
      cases h
      exact absurd digit (by decide)
    · simp only [read,Option.map_some,value]
  · rename_i signed
    by_cases negative : y < 0
    · have value : -((y.natAbs : Nat) : Int) = y := by omega
      have read := number?_year y.natAbs rest
      rw [if_pos negative,List.cons_append,year?,Text.trimStart_cons (by decide)]
      simp only [starts,if_true,read,Option.map_some,value]
    · have value : ((y.natAbs : Nat) : Int) = y := by omega
      have read := number?_year y.natAbs rest
      rw [if_neg negative,List.cons_append,year?,Text.trimStart_cons (by decide)]
      simp only [starts,if_true,read,Option.map_some,value]

/-- A fraction of three, six or nine digits. -/
theorem fraction?_decimalPadded (width : Nat) {n : Nat} (positive : 0 < width) (short : width ≤ 9)
    (h : n < Text.tenTo width) : fraction? ('.' :: Text.decimalPadded width n ++ ['Z']) = some (n * Text.tenTo (9 - width),['Z']) := by
  have length : (Text.decimalPadded width n).length = width := Text.length_decimalPadded positive h
  have digits : ∀ c ∈ Text.decimalPadded width n, c.isDigit = true := fun _ => Text.isDigit_of_mem_decimalPadded
  have taken : (Text.decimalPadded width n ++ ['Z']).takeWhile Char.isDigit = Text.decimalPadded width n := by
    rw [List.takeWhile_append_of_pos digits]
    exact List.append_nil _
  have kept : (Text.decimalPadded width n).take 9 = Text.decimalPadded width n :=
    List.take_of_length_le (length.trans_le short)
  have filled : (Text.decimalPadded width n).isEmpty = false := by
    obtain ⟨c,cs,front,-⟩ := decimalPadded_cons width n
    rw [front]
    rfl
  have rest : (Text.decimalPadded width n ++ ['Z']).drop width = ['Z'] := List.drop_left' length
  rw [List.cons_append,fraction?]
  simp [taken,kept,filled,length,rest]

lemma fraction?_fractionText {nano : Nat} (h : nano < nanosPerSecond) :
    fraction? (fractionText nano ++ ['Z']) = some (nano,['Z']) := by
  unfold nanosPerSecond at h
  unfold fractionText
  split
  · rename_i none
    rw [none]
    rfl
  · split
    · have small : nano / 1000000 < 1000 := by omega
      have whole : nano / 1000000 * 1000000 = nano := by omega
      have read := fraction?_decimalPadded 3 (by decide) (by decide) small
      exact read.trans (congrArg (fun n => some (n,['Z'])) whole)
    · split
      · have small : nano / 1000 < 1000000 := by omega
        have whole : nano / 1000 * 1000 = nano := by omega
        have read := fraction?_decimalPadded 6 (by decide) (by decide) small
        exact read.trans (congrArg (fun n => some (n,['Z'])) whole)
      · have read := fraction?_decimalPadded 9 (by decide) (by decide) h
        exact read.trans (congrArg (fun n => some (n,['Z'])) (Nat.mul_one nano))

lemma earlier_zero {t : Moment} (hour : t.hour < 24) (minute : t.minute < 60) : earlier t 0 = t := by
  have above : ¬((t.hour : Int) * 60 + t.minute - 0 < 0) := by omega
  have below : ¬(1440 ≤ (t.hour : Int) * 60 + t.minute - 0) := by omega
  have clock : (((t.hour : Int) * 60 + t.minute - 0) % 1440).toNat = t.hour * 60 + t.minute := by omega
  have hours : (t.hour * 60 + t.minute) / 60 = t.hour := by omega
  have minutes : (t.hour * 60 + t.minute) % 60 = t.minute := by omega
  simp only [earlier,above,below,clock,hours,minutes,if_false]

lemma isDate_two_digits {y : Int} {m d : Nat} (h : isDate y m d = true) :
    yearInRange y = true ∧ m < 100 ∧ d < 100 := by
  simp only [isDate,Bool.and_eq_true,decide_eq_true_eq] at h
  obtain ⟨⟨⟨⟨year,-⟩,month⟩,-⟩,day⟩ := h
  have days : daysInMonth y m ≤ 31 := by
    unfold daysInMonth
    grind
  exact ⟨year,by omega,by omega⟩

/-- A leap second is written as second 60, with what the nanoseconds have beyond a second as its fraction. -/
theorem OnCalendar.second_restored {t : Moment} (h : t.OnCalendar) :
    t.second + t.nano / nanosPerSecond ≤ 60 ∧
      (if t.second + t.nano / nanosPerSecond = 60 then (59,t.nano % nanosPerSecond + nanosPerSecond)
        else (t.second + t.nano / nanosPerSecond,t.nano % nanosPerSecond)) = (t.second,t.nano) := by
  have second := h.second
  have nano := h.nano
  unfold nanosPerSecond at nano ⊢
  by_cases plain : t.nano < 1000000000
  · rw [Nat.div_eq_of_lt plain,Nat.mod_eq_of_lt plain]
    exact ⟨by omega,if_neg (by omega)⟩
  · obtain ⟨last,leap⟩ := nano.resolve_left plain
    have carried : t.second + t.nano / 1000000000 = 60 := by omega
    have kept : t.nano % 1000000000 + 1000000000 = t.nano := by omega
    rw [if_pos carried,kept,carried,last]
    exact ⟨Nat.le_refl 60,rfl⟩

lemma read?_text {t : Moment} (h : t.OnCalendar) : read? t.text = some t := by
  have apart : t.text = yearText t.year ++ '-' :: (Text.decimalPadded 2 t.month ++ '-' ::
      (Text.decimalPadded 2 t.day ++ 'T' :: (Text.decimalPadded 2 t.hour ++ ':' ::
        (Text.decimalPadded 2 t.minute ++ ':' ::
          (Text.decimalPadded 2 (t.second + t.nano / nanosPerSecond) ++
            (fractionText (t.nano % nanosPerSecond) ++ ['Z'])))))) := by
    simp [text]
  obtain ⟨inRange,month,day⟩ := isDate_two_digits h.date
  obtain ⟨shown,restored⟩ := h.second_restored
  have hour := h.hour
  have minute := h.minute
  have fraction : t.nano % nanosPerSecond < nanosPerSecond := Nat.mod_lt _ (by decide)
  have zone : offset? (Text.trimStart ['Z']) = some (0,[]) := rfl
  rw [apart,read?]
  simp only [bind,Option.bind,year?_yearText,separator?_cons (c := '-') (by decide),
    separator?_cons (c := ':') (by decide),number?_two month,number?_two day,
    number?_two (show t.hour < 100 by omega),number?_two (show t.minute < 100 by omega),
    number?_two (show t.second + t.nano / nanosPerSecond < 100 by omega),fraction?_fractionText fraction,zone]
  simp only [restored,earlier_zero hour minute,inRange,h.date,hour,minute,shown]
  rfl

end Moment
end Recon
