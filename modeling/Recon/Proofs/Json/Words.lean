import Mathlib.Data.List.TakeWhile
import Recon.Json.Printer
import Recon.Json.Reader
import Recon.Proofs.Text.Decimal

/-! Cutting written scalars and quoted texts back into words. A number or a name goes on until a character that
cannot belong to it; what stands between quotes is taken as a whole and unescaped afterwards. -/
namespace Recon.Json

/-- The next character, if there is one, belongs to no number and to no name. -/
def Ends (rest : List Char) : Prop :=
  ∀ c, rest.head? = some c → isNumberChar c = false ∧ c.isAlphanum = false

lemma ends_nil : Ends [] := by
  intro c h
  cases h

lemma ends_cons {c : Char} {rest : List Char} (number : isNumberChar c = false)
    (name : c.isAlphanum = false) : Ends (c :: rest) := by
  intro d h
  obtain rfl := Option.some.inj h
  exact ⟨number,name⟩

lemma ends_of_isGap {c : Char} {rest : List Char} (h : isGap c = true) : Ends (c :: rest) := by
  simp only [isGap,Bool.or_eq_true,beq_iff_eq] at h
  obtain ((rfl | rfl) | rfl) | rfl := h <;> exact ends_cons (by decide) (by decide)

/-- Blanks in front of `rest` change nothing. -/
theorem ends_append {gaps rest : List Char} (blank : ∀ c ∈ gaps, isGap c = true) (h : Ends rest) :
    Ends (gaps ++ rest) := by
  cases gaps with
  | nil => exact h
  | cons c gaps => exact ends_of_isGap (blank c List.mem_cons_self)

lemma tokensFrom_gap_cons (c : Char) (cs : List Char) :
    tokensFrom .gap (c :: cs) = (start c).1 ++ tokensFrom (start c).2 cs := by
  rw [tokensFrom]

lemma tokensFrom_gaps {gaps : List Char} (blank : ∀ c ∈ gaps, isGap c = true) (cs : List Char) :
    tokensFrom .gap (gaps ++ cs) = tokensFrom .gap cs := by
  induction gaps with
  | nil => rfl
  | cons c gaps ih =>
    rw [List.forall_mem_cons] at blank
    have gap : start c = ([],.gap) := by simp [start,blank.1]
    rw [List.cons_append,tokensFrom_gap_cons,gap]
    exact ih blank.2

/-- A number goes on up to what ends it. -/
theorem tokensFrom_number {cs rest : List Char} (read : List Char) (number : ∀ c ∈ cs, isNumberChar c = true)
    (ends : Ends rest) :
    tokensFrom (.number read) (cs ++ rest) = numberTokens (read.reverse ++ cs) ++ tokensFrom .gap rest := by
  induction cs generalizing read with
  | nil =>
    cases rest with
    | nil => simp [tokensFrom]
    | cons c rest =>
      have hc := (ends c rfl).1
      simp [tokensFrom,hc]
  | cons c cs ih =>
    rw [List.forall_mem_cons] at number
    rw [List.cons_append,tokensFrom,if_pos number.1,ih _ number.2]
    simp

lemma tokensFrom_word {cs rest : List Char} (read : List Char) (name : ∀ c ∈ cs, c.isAlphanum = true)
    (ends : Ends rest) :
    tokensFrom (.word read) (cs ++ rest) = wordTokens (read.reverse ++ cs) ++ tokensFrom .gap rest := by
  induction cs generalizing read with
  | nil =>
    cases rest with
    | nil => simp [tokensFrom]
    | cons c rest =>
      have hc := (ends c rfl).2
      simp [tokensFrom,hc]
  | cons c cs ih =>
    rw [List.forall_mem_cons] at name
    rw [List.cons_append,tokensFrom,if_pos name.1,ih _ name.2]
    simp

lemma isNumberChar_of_isDigit {c : Char} (h : c.isDigit = true) : isNumberChar c = true := by
  simp [isNumberChar,h]

section Numeral

/-- Every character that a reader of numbers took can stand in a number. -/
def TakesNumerals (cs rest : List Char) : Prop := ∀ c ∈ cs, c ∈ rest ∨ isNumberChar c = true

lemma TakesNumerals.cons {c : Char} {cs rest : List Char} (first : isNumberChar c = true)
    (h : TakesNumerals cs rest) : TakesNumerals (c :: cs) rest :=
  List.forall_mem_cons.mpr ⟨.inr first,h⟩

lemma TakesNumerals.of_digits {cs rest : List Char} (h : TakesNumerals (cs.dropWhile Char.isDigit) rest) :
    TakesNumerals cs rest := by
  intro c hc
  rw [← List.takeWhile_append_dropWhile (p := Char.isDigit) (l := cs)] at hc
  obtain digit | later := List.mem_append.mp hc
  · exact .inr (isNumberChar_of_isDigit (List.mem_takeWhile_imp digit))
  · exact h c later

lemma takesNumerals_self (cs : List Char) : TakesNumerals cs cs := fun _ h => .inl h

lemma takesNumerals_exponentPart? {cs rest digits : List Char} {down : Bool}
    (h : exponentPart? cs = some (down,digits,rest)) : TakesNumerals cs rest := by
  unfold exponentPart? at h
  split at h
  rename_i sign
  dsimp only at h
  split at h
  · cases h
  · cases h
    split at sign <;> cases sign
    · exact .cons (by decide) (.of_digits (takesNumerals_self _))
    · exact .cons (by decide) (.of_digits (takesNumerals_self _))
    · exact .of_digits (takesNumerals_self _)

lemma takesNumerals_finish? {negative : Bool} {sig : Nat} {start : Int} {whole : Option Value} {cs rest : List Char}
    {v : Value} (h : finish? negative sig start whole cs = some (v,rest)) : TakesNumerals cs rest := by
  unfold finish? at h
  split at h
  · obtain ⟨⟨down,digits,rest'⟩,read,same⟩ := Option.map_eq_some_iff.mp h
    cases same
    exact .cons (by decide) (takesNumerals_exponentPart? read)
  · obtain ⟨⟨down,digits,rest'⟩,read,same⟩ := Option.map_eq_some_iff.mp h
    cases same
    exact .cons (by decide) (takesNumerals_exponentPart? read)
  · cases h
    exact takesNumerals_self _

lemma takesNumerals_number? {cs rest : List Char} {v : Value} (h : number? cs = some (v,rest)) :
    TakesNumerals cs rest ∧ ∃ c, cs.head? = some c ∧ (c = '-' ∨ c.isDigit = true) := by
  unfold number? at h
  split at h
  rename_i ds sign
  dsimp only at h
  split at h
  · cases h
  · rename_i needed
    have taken : TakesNumerals ds rest := by
      -- with a point and without one
      split at h
      · split at h
        · cases h
        · rename_i point _
          have h' := (takesNumerals_finish? h).of_digits.cons (c := '.') (by decide)
          rw [← point] at h'
          exact h'.of_digits
      · exact (takesNumerals_finish? h).of_digits
    split at sign <;> cases sign
    · exact ⟨.cons (by decide) taken,'-',rfl,.inl rfl⟩
    · refine ⟨taken,?_⟩
      cases cs with
      | nil => exact absurd rfl needed
      | cons c cs =>
        refine ⟨c,rfl,.inr ?_⟩
        by_contra other
        simp [other] at needed

end Numeral

lemma start_number {c : Char} (first : c = '-' ∨ c.isDigit = true) : start c = ([],.number [c]) := by
  unfold start
  obtain rfl | digit := first
  · rfl
  · have gap : isGap c = false := by
      apply Bool.eq_false_iff.mpr
      intro gap
      have h := (@ends_of_isGap c [] gap c rfl).1
      rw [isNumberChar_of_isDigit digit] at h
      cases h
    simp [gap,digit]

/-- A written number is one word. -/
theorem tokens_number {cs rest : List Char} {v : Value} (read : number? cs = some (v,[])) (ends : Ends rest) :
    tokensFrom .gap (cs ++ rest) = .scalar v :: tokensFrom .gap rest := by
  obtain ⟨taken,c,hc,first⟩ := takesNumerals_number? read
  have number : ∀ d ∈ cs, isNumberChar d = true := fun d hd => (taken d hd).resolve_left List.not_mem_nil
  obtain ⟨cs,rfl⟩ : ∃ ds, cs = c :: ds := by
    cases cs with
    | nil => cases hc
    | cons d ds => exact ⟨ds,by rw [Option.some.inj hc]⟩
  rw [List.forall_mem_cons] at number
  rw [List.cons_append,tokensFrom_gap_cons,start_number first,tokensFrom_number _ number.2 ends]
  simp [numberTokens,read,scalarThen]

section Whole

lemma le_digitsFrom (acc : Nat) (cs : List Char) : acc ≤ Text.digitsFrom 10 acc cs := by
  induction cs generalizing acc with
  | nil => exact Nat.le_refl acc
  | cons c cs ih =>
    have h := ih (acc * 10 + Text.digitsFrom.digitValue c)
    rw [Text.digitsFrom]
    omega

/-- Digits that fit are all gathered. -/
theorem gatherWhole_eq {cs : List Char} (digits : ∀ c ∈ cs, c.isDigit = true) (sig : Nat)
    (fits : Text.digitsFrom 10 sig cs ≤ maxSignificand) :
    gatherWhole sig 0 cs = (Text.digitsFrom 10 sig cs,0) := by
  induction cs generalizing sig with
  | nil => rfl
  | cons c cs ih =>
    rw [List.forall_mem_cons] at digits
    have value : Text.digitsFrom.digitValue c = c.toNat - 48 := by rw [Text.digitsFrom.digitValue,if_pos digits.1]
    rw [Text.digitsFrom,value] at fits ⊢
    have next := Nat.le_trans (le_digitsFrom _ cs) fits
    rw [gatherWhole]
    simp only [next,and_self,if_true]
    exact ih digits.2 _ fits

lemma gatherWhole_decimal {n : Nat} (fits : n ≤ maxSignificand) : gatherWhole 0 0 (Text.decimal n) = (n,0) := by
  have digits : ∀ c ∈ Text.decimal n, c.isDigit = true := fun c => Text.isDigit_of_mem_decimal
  have h := gatherWhole_eq digits 0 (by rw [Text.digitsFrom_decimal]; exact fits)
  rwa [Text.digitsFrom_decimal] at h

/-- Whole numbers that fit 64 bits, with or without a sign. -/
def Exact (i : Int) : Prop := -9223372036854775808 ≤ i ∧ i < 18446744073709551616

/-- Of the two ways in which a run of digits is no number, neither is how a number is written. -/
theorem not_needless_zero (n : Nat) :
    ((Text.decimal n).isEmpty || ((Text.decimal n).head? == some '0' && 1 < (Text.decimal n).length)) = false := by
  have filled : (Text.decimal n).isEmpty = false := by
    simpa using Text.decimal_ne_nil n
  rw [filled,Bool.false_or,Bool.and_eq_false_iff]
  by_cases front : (Text.decimal n).head? = some '0'
  · right
    rw [Text.eq_zero_of_head?_decimal front]
    decide
  · left
    simpa using front

/-- The sign in front of a negative number. -/
def signed (negative : Bool) (cs : List Char) : List Char := if negative then '-' :: cs else cs

lemma number?_signed (negative : Bool) {n : Nat} (fits : n ≤ maxSignificand) :
    number? (signed negative (Text.decimal n)) = finish? negative n 0 (wholeValue? negative n 0) [] := by
  have digits : ∀ c ∈ Text.decimal n, c.isDigit = true := fun c => Text.isDigit_of_mem_decimal
  have taken : (Text.decimal n).takeWhile Char.isDigit = Text.decimal n := List.takeWhile_eq_self_iff.mpr digits
  have dropped : (Text.decimal n).dropWhile Char.isDigit = [] := List.dropWhile_eq_nil_iff.mpr digits
  have gathered := gatherWhole_decimal fits
  have opened : number? (signed negative (Text.decimal n)) =
      if (Text.decimal n).isEmpty || ((Text.decimal n).head? == some '0' && 1 < (Text.decimal n).length) then none
      else finish? negative n 0 (wholeValue? negative n 0) [] := by
    obtain ⟨c,cs,front⟩ := List.exists_cons_of_ne_nil (Text.decimal_ne_nil n)
    have minus : c ≠ '-' := by
      rintro rfl
      have h := digits '-' (by rw [front]; exact List.mem_cons_self)
      exact absurd h (by decide)
    cases negative with
    | true => simp [signed,number?,taken,dropped,gathered]
    | false =>
      rw [front] at taken dropped gathered ⊢
      simp [signed,number?,minus,taken,dropped,gathered]
  rw [opened,not_needless_zero]
  rfl

/-- A whole number of 64 bits is read back as it was written. -/
theorem number?_intText {i : Int} (h : Exact i) : number? (intText i) = some (.int i,[]) := by
  obtain ⟨low,high⟩ := h
  by_cases negative : i < 0
  · have fits : i.natAbs ≤ maxSignificand := by
      unfold maxSignificand UInt64.size
      omega
    have text : intText i = signed true (Text.decimal i.natAbs) := by simp [intText,negative,signed]
    have inside : ¬(i.natAbs = 0 ∨ 9223372036854775808 < i.natAbs) := by omega
    have value : (-(i.natAbs : Int)) = i := by omega
    have whole : wholeValue? true i.natAbs 0 = some (.int i) := by
      rw [wholeValue?,if_neg (by decide),if_neg (by decide),if_neg inside,value]
    rw [text,number?_signed true fits,whole]
    rfl
  · have fits : i.natAbs ≤ maxSignificand := by
      unfold maxSignificand UInt64.size
      omega
    have text : intText i = signed false (Text.decimal i.natAbs) := by simp [intText,negative,signed]
    have value : (i.natAbs : Int) = i := by omega
    have whole : wholeValue? false i.natAbs 0 = some (.int i) := by
      rw [wholeValue?,if_neg (by decide),if_pos (by decide),value]
    rw [text,number?_signed false fits,whole]
    rfl

end Whole

section Quoted

/-- The three ways in which a character stands between quotes. -/
inductive Quotation (c : Char) : List Char → Prop where
  | plain (visible : 32 ≤ c.toNat) (mark : c ≠ '"') (escape : c ≠ '\\') : Quotation c [c]
  | short (e : Char) (means : escaped? e = some c) (code : e ≠ 'u') : Quotation c ['\\',e]
  | coded (a b : Char) (control : c.toNat < 32)
      (digits : Text.isHexDigit a = true ∧ Text.isHexDigit b = true)
      (value : Text.digitsFrom 16 0 ['0','0',a,b] = c.toNat) : Quotation c ['\\','u','0','0',a,b]

lemma hexDigit_digitChar : ∀ k < 16, Text.isHexDigit k.digitChar = true ∧
    Text.digitsFrom.digitValue k.digitChar = k := by
  decide

/-- Control characters without a name of their own are written with two hexadecimal digits. -/
theorem coded_quotation {c : Char} (control : c.toNat < 32) :
    Quotation c ['\\','u','0','0',(c.toNat / 16).digitChar,(c.toNat % 16).digitChar] := by
  obtain ⟨high,highValue⟩ := hexDigit_digitChar (c.toNat / 16) (by omega)
  obtain ⟨low,lowValue⟩ := hexDigit_digitChar (c.toNat % 16) (by omega)
  have zero : Text.digitsFrom.digitValue '0' = 0 := rfl
  refine .coded _ _ control ⟨high,low⟩ ?_
  simp only [Text.digitsFrom,zero,highValue,lowValue]
  omega

lemma quotation (c : Char) : Quotation c (quotedChar c) := by
  unfold quotedChar
  split
  case h_8 mark escape _ _ _ _ _ =>
    split
    · rename_i control
      have h := coded_quotation (c := c) (by omega)
      have high : c.toNat / 16 = 0 := by omega
      have low : c.toNat % 16 = c.toNat := by omega
      rw [high,low] at h
      rw [Nat.toDigits_of_lt_base control]
      exact h
    · split
      · rename_i visible control
        have h := coded_quotation control
        have high : c.toNat / 16 = 1 := by omega
        rw [Nat.toDigits_of_base_le (by decide) (Nat.le_of_not_lt visible),high]
        rw [high] at h
        exact h
      · rename_i control
        exact .plain (Nat.le_of_not_lt control) mark escape
  all_goals exact .short _ rfl (by decide)

variable {c : Char} {spelling : List Char}

/-- The text goes on after a written character. -/
theorem Quotation.tokensFrom_append (h : Quotation c spelling) (read rest : List Char) :
    tokensFrom (.quoted read) (spelling ++ rest) = tokensFrom (.quoted (spelling.reverse ++ read)) rest := by
  have digit {d : Char} (h : Text.isHexDigit d = true) : d ≠ '"' ∧ d ≠ '\\' :=
    ⟨by rintro rfl; exact absurd h (by decide),by rintro rfl; exact absurd h (by decide)⟩
  cases h with
  | plain visible mark escape => simp [tokensFrom,mark,escape]
  | short e means code => simp [tokensFrom]
  | coded a b control digits value =>
    obtain ⟨ha,ha'⟩ := digit digits.1
    obtain ⟨hb,hb'⟩ := digit digits.2
    simp [tokensFrom,ha,ha',hb,hb']

/-- A written character stands for itself. -/
theorem Quotation.pieces?_append (h : Quotation c spelling) (rest : List Char) :
    pieces? (spelling ++ rest) = (pieces? rest).map (.char c :: ·) := by
  cases h with
  | plain visible mark escape =>
    have shown : ¬c.toNat < 32 := Nat.not_lt.mpr visible
    simp [pieces?,escape,shown]
  | short e means code => simp [pieces?,means,code]
  | coded a b control digits value =>
    have zero : Text.isHexDigit '0' = true := rfl
    have outside : ¬(0xD800 ≤ c.toNat ∧ c.toNat < 0xDC00) ∧ ¬(0xDC00 ≤ c.toNat ∧ c.toNat < 0xE000) := by omega
    simp [pieces?,digits,zero,value,Piece.ofCode,outside]

lemma pieces?_quotedChars (cs : List Char) : pieces? (cs.flatMap quotedChar) = some (cs.map .char) := by
  induction cs with
  | nil => rfl
  | cons c cs ih => rw [List.flatMap_cons,(quotation c).pieces?_append,ih]; rfl

lemma joinPieces?_chars (cs : List Char) : joinPieces? (cs.map .char) = some cs := by
  induction cs with
  | nil => rfl
  | cons c cs ih => rw [List.map_cons,joinPieces?,ih]; rfl

lemma tokensFrom_quotedChars (cs read rest : List Char) :
    tokensFrom (.quoted read) (cs.flatMap quotedChar ++ '"' :: rest) =
      Token.ofQuoted (read.reverse ++ cs.flatMap quotedChar) :: tokensFrom .gap rest := by
  induction cs generalizing read with
  | nil => simp [tokensFrom]
  | cons c cs ih =>
    rw [List.flatMap_cons,List.append_assoc,(quotation c).tokensFrom_append,ih]
    simp

/-- A text between quotes is one word, whatever follows it. -/
theorem tokens_quoted (s : String) (rest : List Char) :
    tokensFrom .gap (quoted s.toList ++ rest) = .text (some s) :: tokensFrom .gap rest := by
  have opened : quoted s.toList ++ rest = '"' :: (s.toList.flatMap quotedChar ++ '"' :: rest) := by
    simp [quoted]
  have body : Token.ofQuoted (s.toList.flatMap quotedChar) = .text (some s) := by
    simp [Token.ofQuoted,pieces?_quotedChars,joinPieces?_chars]
  have start : start '"' = ([],.quoted []) := rfl
  rw [opened,tokensFrom_gap_cons,start,tokensFrom_quotedChars]
  exact congrArg (· :: _) body

end Quoted
end Recon.Json
