import Recon.Decode.Fields
import Recon.Proofs.Json.Words

/-! Texts that are no record. A record is a list or a table, so its text begins with a bracket or a brace; and where a
closing bracket has an opening one right after it, the root is either complete by then or broken. -/
namespace Recon

/-- A list or a table. -/
def Value.Holds : Value → Prop
  | .list _ | .table _ => True
  | _ => False

lemma Fields.decode_of_not_holds {α : Type} {v : Value} (h : ¬ v.Holds) (format : Format) (f : Fields α) :
    f.decode format v = .error .mismatch := by
  cases v with
  | list vs => exact absurd trivial h
  | table es => exact absurd trivial h
  | _ => rfl

lemma Decode.document_ne_ok_of_trailing {α : Type} {doc : Document} (h : doc.trailing = true)
    (d : Value → Decoded α) (a : α) : Decode.document d doc ≠ .ok a := by
  unfold Decode.document
  cases d doc.root with
  | error fault => nofun
  | ok b =>
    simp only [h,if_true]
    nofun

namespace Json

section Scalars

lemma not_holds_floatValue (negative : Bool) (sig : Nat) (e : Int) : ¬ (floatValue negative sig e).Holds := by
  unfold floatValue
  split
  · exact id
  · exact id

lemma not_holds_withExponent (negative : Bool) (sig : Nat) (start : Int) (down : Bool) (digits : List Char) :
    ¬ (withExponent negative sig start down digits).Holds := by
  simp only [withExponent]
  split
  · split
    · exact id
    · exact id
  · exact not_holds_floatValue _ _ _

lemma not_holds_wholeValue? {negative : Bool} {sig dropped : Nat} {v : Value}
    (h : wholeValue? negative sig dropped = some v) : ¬ v.Holds := by
  unfold wholeValue? at h
  split at h
  · cases h
  · split at h
    · cases h
      exact id
    · split at h
      · cases h
        exact id
      · cases h
        exact id

lemma not_holds_finish? {negative : Bool} {sig : Nat} {start : Int} {whole : Option Value} {cs rest : List Char}
    {v : Value} (plain : ∀ w, whole = some w → ¬ w.Holds)
    (h : finish? negative sig start whole cs = some (v,rest)) : ¬ v.Holds := by
  unfold finish? at h
  split at h
  · obtain ⟨⟨down,digits,rest'⟩,-,same⟩ := Option.map_eq_some_iff.mp h
    cases same
    exact not_holds_withExponent _ _ _ _ _
  · obtain ⟨⟨down,digits,rest'⟩,-,same⟩ := Option.map_eq_some_iff.mp h
    cases same
    exact not_holds_withExponent _ _ _ _ _
  · cases h
    cases whole with
    | none => exact not_holds_floatValue _ _ _
    | some w => exact plain w rfl

lemma not_holds_number? {cs rest : List Char} {v : Value} (h : number? cs = some (v,rest)) : ¬ v.Holds := by
  unfold number? at h
  split at h
  dsimp only at h
  split at h
  · cases h
  · split at h
    · split at h
      · cases h
      · exact not_holds_finish? (fun w none => absurd none (Option.some_ne_none w).symm) h
    · exact not_holds_finish? (fun w => not_holds_wholeValue?) h

end Scalars

/-- A word with which neither a list nor a table begins. -/
def Token.Single : Token → Prop
  | .openList | .openTable => False
  | .scalar v => ¬ v.Holds
  | _ => True

lemma single_of_mem_scalarThen {v : Value} (h : ¬ v.Holds) {rest : List Char} {t : Token}
    (inside : t ∈ scalarThen v rest) : t.Single := by
  unfold scalarThen at inside
  split at inside
  · exact List.mem_singleton.mp inside ▸ h
  · obtain rfl | inside := List.mem_cons.mp inside
    · exact h
    · exact List.mem_singleton.mp inside ▸ trivial

lemma single_of_mem_numberTokens {cs : List Char} {t : Token} (inside : t ∈ numberTokens cs) : t.Single := by
  unfold numberTokens at inside
  split at inside
  · exact List.mem_singleton.mp inside ▸ trivial
  · next v rest read => exact single_of_mem_scalarThen (not_holds_number? read) inside

lemma single_of_mem_wordTokens {cs : List Char} {t : Token} (inside : t ∈ wordTokens cs) : t.Single := by
  unfold wordTokens at inside
  split at inside
  · exact List.mem_singleton.mp inside ▸ trivial
  · next w v found =>
    have plain : ∀ e ∈ words, ¬ e.2.Holds := by simp [words,Value.Holds]
    exact single_of_mem_scalarThen (plain _ (List.mem_of_find?_eq_some found)) inside

lemma single_ofQuoted (body : List Char) : (Token.ofQuoted body).Single := by
  unfold Token.ofQuoted
  split
  · trivial
  · trivial

lemma numberTokens_ne_nil (cs : List Char) : numberTokens cs ≠ [] := by
  unfold numberTokens
  split
  · exact List.cons_ne_nil _ _
  · unfold scalarThen
    split <;> exact List.cons_ne_nil _ _

lemma wordTokens_ne_nil (cs : List Char) : wordTokens cs ≠ [] := by
  unfold wordTokens
  split
  · exact List.cons_ne_nil _ _
  · unfold scalarThen
    split <;> exact List.cons_ne_nil _ _

/-- The word that has begun is the next one, and it is a single one. -/
theorem single_head?_tokensFrom {lexeme : Lexeme} (begun : lexeme ≠ .gap) (cs : List Char) :
    ∀ t, (tokensFrom lexeme cs).head? = some t → t.Single := by
  have first {own : List Token} (filled : own ≠ []) (single : ∀ t ∈ own, t.Single) (more : List Token) (t : Token)
      (h : (own ++ more).head? = some t) : t.Single := by
    obtain ⟨t',own,rfl⟩ := List.exists_cons_of_ne_nil filled
    exact Option.some.inj h ▸ single t' List.mem_cons_self
  induction cs generalizing lexeme with
  | nil =>
    intro t h
    cases lexeme with
    | gap => exact absurd rfl begun
    | number read => exact single_of_mem_numberTokens (List.mem_of_head? h)
    | word read => exact single_of_mem_wordTokens (List.mem_of_head? h)
    | quoted read => exact Option.some.inj h ▸ trivial
    | escape read => exact Option.some.inj h ▸ trivial
  | cons c cs ih =>
    intro t h
    cases lexeme with
    | gap => exact absurd rfl begun
    | number read =>
      rw [tokensFrom] at h
      split at h
      · exact ih Lexeme.noConfusion t h
      · exact first (numberTokens_ne_nil _) (fun t => single_of_mem_numberTokens) _ t h
    | word read =>
      rw [tokensFrom] at h
      split at h
      · exact ih Lexeme.noConfusion t h
      · exact first (wordTokens_ne_nil _) (fun t => single_of_mem_wordTokens) _ t h
    | quoted read =>
      rw [tokensFrom] at h
      split at h
      · exact Option.some.inj h ▸ single_ofQuoted _
      · split at h
        · exact ih Lexeme.noConfusion t h
        · exact ih Lexeme.noConfusion t h
    | escape read =>
      rw [tokensFrom] at h
      exact ih Lexeme.noConfusion t h

/-- A character that opens neither a list nor a table begins a word, or is one that does not open them either. -/
theorem start_single {c : Char} (gap : isGap c = false) (bracket : c ≠ '[') (brace : c ≠ '\x7b') :
    ((start c).1 = [] ∧ (start c).2 ≠ .gap) ∨ ∃ t, (start c).1 = [t] ∧ t.Single := by
  unfold start
  rw [gap,if_neg Bool.false_ne_true]
  split
  · exact .inl ⟨rfl,nofun⟩
  · split
    · exact .inl ⟨rfl,nofun⟩
    · split
      · exact .inl ⟨rfl,nofun⟩
      · exact absurd rfl bracket
      · exact .inr ⟨_,rfl,trivial⟩
      · exact absurd rfl brace
      · exact .inr ⟨_,rfl,trivial⟩
      · exact .inr ⟨_,rfl,trivial⟩
      · exact .inr ⟨_,rfl,trivial⟩
      · exact .inr ⟨_,rfl,trivial⟩

lemma not_holds_build {t : Token} (single : t.Single) (rest : List Token) :
    ¬ (build [] .value (t :: rest)).root.Holds := by
  cases t with
  | openList => exact absurd single id
  | openTable => exact absurd single id
  | scalar v => exact single
  | text s => cases s <;> exact id
  | _ => exact id

/-- A text that begins with neither a bracket nor a brace is no list and no table. -/
theorem not_holds_read {c : Char} (gap : isGap c = false) (bracket : c ≠ '[') (brace : c ≠ '\x7b') (cs : List Char) :
    ¬ (read (c :: cs)).root.Holds := by
  have opened : tokens (c :: cs) = (start c).1 ++ tokensFrom (start c).2 cs := tokensFrom_gap_cons c cs
  obtain ⟨empty,begun⟩ | ⟨t,own,single⟩ := start_single gap bracket brace
  · rw [read,opened,empty,List.nil_append]
    cases more : tokensFrom (start c).2 cs with
    | nil => exact id
    | cons t rest =>
      have single := single_head?_tokensFrom begun cs t (by rw [more]; rfl)
      exact not_holds_build single rest
  · rw [read,opened,own]
    exact not_holds_build single _

section Brackets

/-- A closing bracket completes a value, or the text is broken there. -/
theorem next_closeList (frames : List Frame) (expect : Expect) :
    next frames expect .closeList = .stop ∨ ∃ v frames', next frames expect .closeList = settle v frames' := by
  cases expect with
  | valueOrClose =>
    cases frames with
    | nil => exact .inl rfl
    | cons frame frames => cases frame <;> first | exact .inl rfl | exact .inr ⟨_,_,rfl⟩
  | separator =>
    cases frames with
    | nil => exact .inl rfl
    | cons frame frames => cases frame <;> first | exact .inl rfl | exact .inr ⟨_,_,rfl⟩
  | _ => exact .inl rfl

/-- An opening bracket cannot follow a closing one: if the root is not complete by then, the text is broken. -/
theorem trailing_build (before : List Token) (frames : List Frame) (expect : Expect) (rest : List Token) :
    (build frames expect (before ++ .closeList :: .openList :: rest)).trailing = true := by
  induction before generalizing frames expect with
  | nil =>
    rw [List.nil_append,build]
    obtain stopped | ⟨v,frames',settled⟩ := next_closeList frames expect
    · rw [stopped]
      rfl
    · rw [settled]
      cases frames' with
      | nil => rfl
      | cons frame frames' =>
        -- a separator is due
        change (build (frame.add v :: frames') .separator (.openList :: rest)).trailing = true
        rw [build]
        rfl
  | cons t before ih =>
    rw [List.cons_append,build]
    split
    · exact ih _ _
    · simp
    · rfl

/-- Outside of quotes. -/
def Lexeme.Open : Lexeme → Prop
  | .quoted _ | .escape _ => False
  | _ => True

lemma open_start {c : Char} (mark : c ≠ '"') : (start c).2.Open := by
  unfold start
  split
  · trivial
  · split
    · trivial
    · split
      · trivial
      · split <;> trivial

/-- One character outside of quotes: the words it completes and where the reading stands. -/
theorem exists_tokensFrom_cons {lexeme : Lexeme} (outside : lexeme.Open) {c : Char} (mark : c ≠ '"') :
    ∃ own lexeme', lexeme'.Open ∧ ∀ cs, tokensFrom lexeme (c :: cs) = own ++ tokensFrom lexeme' cs := by
  cases lexeme with
  | gap => exact ⟨_,_,open_start mark,fun cs => tokensFrom_gap_cons c cs⟩
  | number read =>
    by_cases more : isNumberChar c = true
    · exact ⟨[],.number (c :: read),trivial,fun cs => by rw [tokensFrom,if_pos more]; rfl⟩
    · exact ⟨_,_,open_start mark,fun cs => by rw [tokensFrom,if_neg more,← List.append_assoc]⟩
  | word read =>
    by_cases more : c.isAlphanum = true
    · exact ⟨[],.word (c :: read),trivial,fun cs => by rw [tokensFrom,if_pos more]; rfl⟩
    · exact ⟨_,_,open_start mark,fun cs => by rw [tokensFrom,if_neg more,← List.append_assoc]⟩
  | quoted read => exact absurd outside id
  | escape read => exact absurd outside id

/-- A bracket outside of quotes is a word, whatever was begun before it. -/
theorem exists_tokensFrom_closing {lexeme : Lexeme} (outside : lexeme.Open) :
    ∃ own, ∀ cs, tokensFrom lexeme (']' :: cs) = own ++ .closeList :: tokensFrom .gap cs := by
  cases lexeme with
  | gap => exact ⟨[],fun cs => tokensFrom_gap_cons _ cs⟩
  | number read => exact ⟨numberTokens read.reverse,fun cs => by rw [tokensFrom]; rfl⟩
  | word read => exact ⟨wordTokens read.reverse,fun cs => by rw [tokensFrom]; rfl⟩
  | quoted read => exact absurd outside id
  | escape read => exact absurd outside id

lemma exists_tokensFrom_brackets {lexeme : Lexeme} (outside : lexeme.Open) {cs : List Char} (marks : '"' ∉ cs) :
    ∃ before, ∀ rest, tokensFrom lexeme (cs ++ ']' :: ' ' :: '[' :: rest) =
      before ++ .closeList :: .openList :: tokensFrom .gap rest := by
  induction cs generalizing lexeme with
  | nil =>
    obtain ⟨own,closes⟩ := exists_tokensFrom_closing outside
    have blank : start ' ' = ([],.gap) := rfl
    have bracket : start '[' = ([.openList],.gap) := rfl
    refine ⟨own,fun rest => ?_⟩
    rw [List.nil_append,closes,tokensFrom_gap_cons,blank,List.nil_append,tokensFrom_gap_cons,bracket,
      List.singleton_append]
  | cons c cs ih =>
    rw [List.mem_cons,not_or] at marks
    obtain ⟨own,lexeme',outside',opens⟩ := exists_tokensFrom_cons outside (Ne.symm marks.1)
    obtain ⟨before,closes⟩ := ih outside' marks.2
    refine ⟨own ++ before,fun rest => ?_⟩
    rw [List.cons_append,opens,closes,List.append_assoc]

/-- A text is no document if, with no quotes before it, a closing bracket is followed by an opening one. -/
theorem trailing_read {cs : List Char} (marks : '"' ∉ cs) (rest : List Char) :
    (read (cs ++ ']' :: ' ' :: '[' :: rest)).trailing = true := by
  have outside : Lexeme.Open .gap := trivial
  obtain ⟨before,words⟩ := exists_tokensFrom_brackets outside marks
  rw [read,tokens,words]
  exact trailing_build _ _ _ _

end Brackets
end Json
end Recon
