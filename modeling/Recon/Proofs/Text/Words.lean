import Recon.Proofs.Text.Lines
import Recon.Proofs.Text.Lowercase

/-! Words with a space between neighbours. Cutting at blanks gives them back, lower case goes word by word, and what
holds no space is found in the text just if it is found in a word. -/
namespace Recon.Text

/-- A text that a line shows as one word. -/
structure IsWord (w : List Char) : Prop where
  filled : w ≠ []
  unspaced : ∀ c ∈ w, isBlank c = false

instance (w : List Char) : Decidable (IsWord w) :=
  decidable_of_iff (w ≠ [] ∧ w.all (fun c => !isBlank c) = true)
    ⟨fun ⟨filled,unspaced⟩ => ⟨filled,by simpa using unspaced⟩,
      fun ⟨filled,unspaced⟩ => ⟨filled,by simpa using unspaced⟩⟩

section Joining

variable {w : List Char} {ws : List (List Char)}

lemma joinWith_cons_cons (sep w w' : List Char) (ws : List (List Char)) :
    joinWith sep (w :: w' :: ws) = w ++ sep ++ joinWith sep (w' :: ws) := rfl

lemma mem_joinWith {c : Char} (inside : c ∈ joinWith [' '] ws) : c = ' ' ∨ ∃ w ∈ ws, c ∈ w := by
  induction ws with
  | nil => cases inside
  | cons w ws ih =>
    cases ws with
    | nil => exact .inr ⟨w,List.mem_cons_self,inside⟩
    | cons w' ws =>
      rw [joinWith_cons_cons,List.mem_append,List.mem_append,List.mem_singleton] at inside
      obtain (here | space) | later := inside
      · exact .inr ⟨w,List.mem_cons_self,here⟩
      · exact .inl space
      · exact (ih later).imp_right fun ⟨v,listed,here⟩ => ⟨v,List.mem_cons_of_mem _ listed,here⟩

lemma pieces_append_space (unspaced : ∀ c ∈ w, isBlank c = false) (rest : List Char) :
    pieces isBlank (w ++ ' ' :: rest) = w :: pieces isBlank rest := by
  rw [pieces_eq_splitOnP,pieces_eq_splitOnP,List.splitOnP_append_cons _ _ (show isBlank ' ' = true from rfl),
    List.splitOnP_eq_singleton unspaced,List.singleton_append]

/-- Words that are put together are cut apart again. -/
theorem words_joinWith (worded : ∀ w ∈ ws, IsWord w) : words (joinWith [' '] ws) = ws := by
  induction ws with
  | nil => rfl
  | cons w ws ih =>
    rw [List.forall_mem_cons] at worded
    obtain ⟨⟨filled,unspaced⟩,later⟩ := worded
    have kept (ws : List (List Char)) : (w :: ws).filter (fun w => !w.isEmpty) = w :: ws.filter fun w => !w.isEmpty :=
      List.filter_cons_of_pos (by simpa using filled)
    cases ws with
    | nil =>
      rw [joinWith_singleton,words,pieces_eq_splitOnP,List.splitOnP_eq_singleton unspaced,kept]
      rfl
    | cons w' ws =>
      rw [joinWith_cons_cons,List.append_assoc,List.singleton_append,words,pieces_append_space unspaced,
        kept]
      exact congrArg (w :: ·) (ih later)

lemma trimmed_joinWith (worded : ∀ w ∈ ws, IsWord w) : Trimmed (joinWith [' '] ws) where
  first c lead := by
    cases ws with
    | nil => cases lead
    | cons w ws =>
      have word := worded w List.mem_cons_self
      cases ws with
      | nil => exact word.unspaced c (List.mem_of_head? lead)
      | cons w' ws =>
        rw [joinWith_cons_cons,List.append_assoc,List.head?_append_of_ne_nil _ word.filled] at lead
        exact word.unspaced c (List.mem_of_head? lead)
  last c final := by
    induction ws with
    | nil => cases final
    | cons w ws ih =>
      rw [List.forall_mem_cons] at worded
      cases ws with
      | nil => exact worded.1.unspaced c (List.mem_of_getLast? final)
      | cons w' ws =>
        have filled : joinWith [' '] (w' :: ws) ≠ [] := by
          intro empty
          have cut := words_joinWith worded.2
          rw [empty] at cut
          cases cut
        rw [joinWith_cons_cons,List.getLast?_append_of_ne_nil _ filled] at final
        exact ih worded.2 final

/-- What holds no separator lies on one side of it. -/
theorem infix_append_cons_iff {needle a b : List Char} {sep : Char} (whole : sep ∉ needle) :
    needle <:+: a ++ sep :: b ↔ needle <:+: a ∨ needle <:+: b := by
  constructor
  · intro inside
    obtain left | right | ⟨front,back,rfl,last,first⟩ := List.infix_append_iff.mp inside
    · exact .inl left
    · obtain first | later := List.infix_cons_iff.mp right
      · obtain rfl | ⟨rest,rfl,-⟩ := List.prefix_cons_iff.mp first
        · exact .inr (List.nil_infix)
        · exact absurd List.mem_cons_self whole
      · exact .inr later
    · obtain rfl | ⟨rest,rfl,-⟩ := List.prefix_cons_iff.mp first
      · exact .inl (by rw [List.append_nil]; exact last.isInfix)
      · exact absurd (List.mem_append_right _ List.mem_cons_self) whole
  · rintro (left | right)
    · exact left.trans (List.prefix_append a _).isInfix
    · exact right.trans ((List.suffix_cons sep b).trans (List.suffix_append a _)).isInfix

lemma infix_joinWith_iff {needle : List Char} (filled : needle ≠ []) (whole : ' ' ∉ needle) :
    needle <:+: joinWith [' '] ws ↔ ∃ w ∈ ws, needle <:+: w := by
  induction ws with
  | nil => simp [filled]
  | cons w ws ih =>
    cases ws with
    | nil => simp
    | cons w' ws =>
      rw [joinWith_cons_cons,List.append_assoc,List.singleton_append,infix_append_cons_iff whole,ih]
      simp only [List.mem_cons,exists_eq_or_imp]

end Joining

section Lower

/-- A cased letter comes before, with at most accents after it. -/
def followsCased (before : List Char) : Bool := (before.dropWhile isCaseIgnorable).head?.any isCased

lemma followsCased_cons (c : Char) (before : List Char) :
    followsCased (c :: before) = if isCaseIgnorable c then followsCased before else isCased c := by
  unfold followsCased
  split
  · next ignored => rw [List.dropWhile_cons_of_pos ignored]
  · next counts => rw [List.dropWhile_cons_of_neg counts]; rfl

/-- Of what comes before, lower case depends on no more than that. -/
theorem lowerAfter_congr {before before' : List Char} (same : followsCased before = followsCased before')
    (cs : List Char) : lowerAfter before cs = lowerAfter before' cs := by
  induction cs generalizing before before' with
  | nil => rfl
  | cons c cs ih =>
    have final : sigmaIsFinal before cs = sigmaIsFinal before' cs := congrArg (· && _) same
    have next : followsCased (c :: before) = followsCased (c :: before') := by
      rw [followsCased_cons,followsCased_cons,same]
    rw [lowerAfter,lowerAfter,final,ih next]

lemma sigmaIsFinal_append_space (before cs rest : List Char) :
    sigmaIsFinal before (cs ++ ' ' :: rest) = sigmaIsFinal before cs := by
  have follows : followsCased (cs ++ ' ' :: rest) = followsCased cs := by
    induction cs with
    | nil => rfl
    | cons c cs ih => rw [List.cons_append,followsCased_cons,followsCased_cons,ih]
  exact congrArg (fun follows => _ && !follows) follows

lemma lowerAfter_append_space (before cs rest : List Char) :
    lowerAfter before (cs ++ ' ' :: rest) = lowerAfter before cs ++ ' ' :: lower rest := by
  induction cs generalizing before with
  | nil =>
    have apart : followsCased (' ' :: before) = followsCased [] := rfl
    change lowerChar ' ' ++ lowerAfter (' ' :: before) rest = ' ' :: lower rest
    rw [lowerAfter_congr apart rest]
    rfl
  | cons c cs ih => rw [List.cons_append,lowerAfter,lowerAfter,sigmaIsFinal_append_space,ih,List.append_assoc]

lemma lower_append_space (cs rest : List Char) : lower (cs ++ ' ' :: rest) = lower cs ++ ' ' :: lower rest :=
  lowerAfter_append_space [] cs rest

lemma lower_joinWith (ws : List (List Char)) : lower (joinWith [' '] ws) = joinWith [' '] (ws.map lower) := by
  induction ws with
  | nil => rfl
  | cons w ws ih =>
    cases ws with
    | nil => rfl
    | cons w' ws =>
      rw [joinWith_cons_cons,List.append_assoc,List.singleton_append,lower_append_space,ih,List.map_cons,List.map_cons,
        List.map_cons,joinWith_cons_cons,List.append_assoc,List.singleton_append]

/-- ASCII letters do not depend on what is around them. -/
theorem lowerAfter_append_of_ascii {cs : List Char} (ascii : ∀ c ∈ cs, c.toNat < 128) (before rest : List Char) :
    lowerAfter before (cs ++ rest) = cs.map Char.toLower ++ lowerAfter (cs.reverse ++ before) rest := by
  induction cs generalizing before with
  | nil => rfl
  | cons c cs ih =>
    rw [List.forall_mem_cons] at ascii
    have other : c ≠ '\u03a3' := by
      rintro rfl
      exact absurd ascii.1 (by decide)
    rw [List.cons_append,lowerAfter,if_neg other,lowerChar,if_pos ascii.1,ih ascii.2,List.reverse_cons,List.append_assoc]
    rfl

lemma lower_of_ascii {cs : List Char} (ascii : ∀ c ∈ cs, c.toNat < 128) : lower cs = cs.map Char.toLower := by
  have alone := lowerAfter_append_of_ascii ascii [] []
  rwa [List.append_nil,lowerAfter,List.append_nil] at alone

lemma ascii_of_toLower {c : Char} (ascii : c.toLower.toNat < 128) : c.toNat < 128 := by
  unfold Char.toLower at ascii
  split at ascii
  · next capital => exact Nat.lt_of_le_of_lt (UInt32.le_iff_toNat_le.mp capital.2) (by decide)
  · exact ascii

lemma forall_ascii {p : Char → Prop} (h : ∀ n < 128, p (Char.ofNat n)) {c : Char} (ascii : c.toNat < 128) : p c :=
  Char.ofNat_toNat c ▸ h c.toNat ascii

lemma ascii_toLower {c : Char} (ascii : c.toNat < 128) : c.toLower.toNat < 128 :=
  forall_ascii (p := fun c => c.toLower.toNat < 128) (by decide) ascii

lemma isBlank_toLower {c : Char} (ascii : c.toNat < 128) : isBlank c.toLower = isBlank c :=
  forall_ascii (p := fun c => isBlank c.toLower = isBlank c) (by decide) ascii

end Lower

end Recon.Text
