import Recon.Proofs.Text.Blank
import Recon.Proofs.Text.Decimal
import Recon.Xml.Element

/-! Attributes as they can be written in a tag. Their names and raw values are read back whatever blanks stand between
and whichever quotation marks are used, and so is a text in which characters are written as references. -/
namespace Recon.Xml

section References

/-- A reference, without its marks, and the character that it stands for. -/
inductive Reference : List Char → Char → Prop
  | named {name : List Char} {c : Char} (entity : (name,c) ∈ entities) : Reference name c
  | decimal {digits : List Char} {c : Char} (filled : digits ≠ []) (digital : ∀ d ∈ digits, d.isDigit = true)
      (code : Text.digitsFrom 10 0 digits = c.toNat) (visible : c.toNat ≠ 0) : Reference ('#' :: digits) c
  | hexadecimal {digits : List Char} {c : Char} (filled : digits ≠ [])
      (digital : ∀ d ∈ digits, Text.isHexDigit d = true) (code : Text.digitsFrom 16 0 digits = c.toNat)
      (visible : c.toNat ≠ 0) : Reference ('#' :: 'x' :: digits) c

/-- A text written with references for some of its characters. -/
inductive Spelling : List Char → List Char → Prop
  | nil : Spelling [] []
  | plain {c : Char} {raw cs : List Char} (mark : c ≠ '&') (rest : Spelling raw cs) : Spelling (c :: raw) (c :: cs)
  | reference {name : List Char} {c : Char} {raw cs : List Char} (known : Reference name c) (rest : Spelling raw cs) :
      Spelling ('&' :: (name ++ ';' :: raw)) (c :: cs)

variable {name raw cs : List Char} {c : Char}

lemma ofCode?_toNat (visible : c.toNat ≠ 0) : ofCode? c.toNat = some c := by
  rw [ofCode?,if_pos ⟨visible,c.valid⟩,Char.ofNat_toNat]

lemma reference?_of_mem_entities : ∀ e ∈ entities, reference? e.1 = some e.2 := by decide

lemma unmarked_of_mem_entities : ∀ e ∈ entities, ∀ d ∈ e.1, d ≠ '&' ∧ d ≠ ';' := by
  have unmarked : ∀ e ∈ entities, e.1.all (fun d => decide (d ≠ '&' ∧ d ≠ ';')) = true := by decide
  exact fun e known => Text.forall_mem_of_all (unmarked e known)

lemma Reference.reference? (h : Reference name c) : Xml.reference? name = some c := by
  cases h with
  | named entity => exact reference?_of_mem_entities _ entity
  | @decimal digits _ filled digital code visible =>
    obtain ⟨d,ds,rfl⟩ := List.exists_cons_of_ne_nil filled
    have other : d ≠ 'x' := by
      rintro rfl
      exact absurd (digital _ List.mem_cons_self) (by decide)
    have whole : (d :: ds).all Char.isDigit = true := List.all_eq_true.mpr digital
    rw [Xml.reference?,whole,code,ofCode?_toNat visible]
    · rfl
    · rintro ds' same
      exact other (List.cons.inj same).1
  | hexadecimal filled digital code visible =>
    rw [Xml.reference?,code,ofCode?_toNat visible,List.all_eq_true.mpr digital]
    simp [filled]

lemma isHexDigit_unmarked {d : Char} (h : Text.isHexDigit d = true) : d ≠ '&' ∧ d ≠ ';' := by
  constructor
  · rintro rfl
    exact absurd h (by decide)
  · rintro rfl
    exact absurd h (by decide)

/-- Neither mark of a reference stands within it. -/
theorem Reference.unmarked (h : Reference name c) : ∀ d ∈ name, d ≠ '&' ∧ d ≠ ';' := by
  cases h with
  | named entity => exact unmarked_of_mem_entities _ entity
  | decimal filled digital code visible =>
    refine List.forall_mem_cons.mpr ⟨by decide,fun d inside => isHexDigit_unmarked ?_⟩
    rw [Text.isHexDigit,digital d inside,Bool.true_or,Bool.true_or]
  | hexadecimal filled digital code visible =>
    refine List.forall_mem_cons.mpr ⟨by decide,List.forall_mem_cons.mpr ⟨by decide,fun d inside => ?_⟩⟩
    exact isHexDigit_unmarked (digital d inside)

lemma unescapeFrom_inside (unmarked : ∀ d ∈ name, d ≠ '&' ∧ d ≠ ';') (read rest : List Char) :
    unescapeFrom (some read) (name ++ ';' :: rest) =
      (reference? (read.reverse ++ name)).bind fun d => (unescapeFrom none rest).map (d :: ·) := by
  induction name generalizing read with
  | nil => rw [List.nil_append,unescapeFrom,List.append_nil]; rfl
  | cons d name ih =>
    rw [List.forall_mem_cons] at unmarked
    obtain ⟨⟨ampersand,semicolon⟩,later⟩ := unmarked
    rw [List.cons_append,unescapeFrom,if_neg (by simpa using semicolon),if_neg (by simpa using ampersand),ih later,
      List.reverse_cons,List.append_assoc,List.singleton_append]

lemma Spelling.unescape? (h : Spelling raw cs) : Xml.unescape? raw = some cs := by
  induction h with
  | nil => rfl
  | plain mark rest ih =>
    rw [Xml.unescape?] at ih ⊢
    rw [unescapeFrom,if_neg (by simpa using mark),ih,Option.map_some]
  | reference known rest ih =>
    rw [Xml.unescape?] at ih ⊢
    rw [unescapeFrom,if_pos (beq_self_eq_true '&'),unescapeFrom_inside known.unmarked,List.reverse_nil,
      List.nil_append,known.reference?,ih]
    rfl

lemma Spelling.isReadable (h : Spelling raw cs) : Xml.isReadable raw = true := by
  rw [Xml.isReadable,h.unescape?]
  rfl

end References

/-- Blanks as XML has them. -/
def Gap (cs : List Char) : Prop := ∀ c ∈ cs, isGap c = true

instance (cs : List Char) : Decidable (Gap cs) := decidable_of_iff (cs.all isGap = true) List.all_eq_true

/-- Whether a character can stand in a name. -/
def isNameChar (c : Char) : Bool := !(isGap c || ['=','"','\x27','<','>','/','!','?'].contains c)

/-- A name of an element or of an attribute. -/
structure IsName (name : List Char) : Prop where
  filled : name ≠ []
  plain : ∀ c ∈ name, isNameChar c = true

instance (name : List Char) : Decidable (IsName name) :=
  decidable_of_iff (name ≠ [] ∧ name.all isNameChar = true)
    ⟨fun ⟨filled,plain⟩ => ⟨filled,List.all_eq_true.mp plain⟩,
      fun ⟨filled,plain⟩ => ⟨filled,List.all_eq_true.mpr plain⟩⟩

/-- The attributes of a tag as they stand in it, each after a blank and between either quotation marks. -/
inductive Written : List Char → List (List Char × List Char) → Prop
  | last {gap : List Char} (blank : Gap gap) : Written gap []
  | next {gap key before after value rest : List Char} {quote : Char} {as : List (List Char × List Char)}
      (apart : gap ≠ []) (blank : Gap gap) (name : IsName key) (blankBefore : Gap before) (blankAfter : Gap after)
      (mark : quote = '"' ∨ quote = '\x27') (inside : quote ∉ value) (more : Written rest as) :
      Written (gap ++ key ++ before ++ '=' :: (after ++ quote :: (value ++ quote :: rest))) ((key,value) :: as)

/-- Attributes of a tag, of which no two have one name. -/
structure Attributes (raw : List Char) (as : List (List Char × List Char)) : Prop where
  written : Written raw as
  distinct : (as.map (·.1)).Nodup

section Reading

variable {c : Char} {cs : List Char}

lemma not_isGap_of_isNameChar (h : isNameChar c = true) : isGap c = false := by
  rw [isNameChar,Bool.not_or,Bool.and_eq_true] at h
  simpa using h.1

lemma ne_of_isNameChar {d : Char} (h : isNameChar c = true) (other : isNameChar d = false) : c ≠ d := by
  rintro rfl
  rw [h] at other
  cases other

lemma attributesFrom_gap (blank : Gap cs) (rest : List Char) :
    attributesFrom .gap (cs ++ rest) = attributesFrom .gap rest := by
  induction cs with
  | nil => rfl
  | cons c cs ih =>
    obtain ⟨gap,blank⟩ := List.forall_mem_cons.mp blank
    rw [List.cons_append,attributesFrom,if_pos gap,ih blank]

lemma attributesFrom_key (plain : ∀ c ∈ cs, isNameChar c = true) (read rest : List Char) :
    attributesFrom (.key read) (cs ++ rest) = attributesFrom (.key (cs.reverse ++ read)) rest := by
  induction cs generalizing read with
  | nil => rfl
  | cons c cs ih =>
    obtain ⟨first,plain⟩ := List.forall_mem_cons.mp plain
    have equals : c ≠ '=' := ne_of_isNameChar first rfl
    rw [List.cons_append,attributesFrom,if_neg (by simpa using equals),
      if_neg (by simp [not_isGap_of_isNameChar first]),ih plain,List.reverse_cons,List.append_assoc]
    rfl

lemma attributesFrom_beforeEquals (key : List Char) (blank : Gap cs) (rest : List Char) :
    attributesFrom (.beforeEquals key) (cs ++ '=' :: rest) = attributesFrom (.beforeValue key) rest := by
  induction cs with
  | nil => rfl
  | cons c cs ih =>
    obtain ⟨gap,blank⟩ := List.forall_mem_cons.mp blank
    rw [List.cons_append,attributesFrom,if_pos gap,ih blank]

lemma attributesFrom_beforeValue (key : List Char) (blank : Gap cs) {quote : Char}
    (mark : quote = '"' ∨ quote = '\x27') (rest : List Char) :
    attributesFrom (.beforeValue key) (cs ++ quote :: rest) = attributesFrom (.value key quote []) rest := by
  induction cs with
  | nil => obtain rfl | rfl := mark <;> rfl
  | cons c cs ih =>
    obtain ⟨gap,blank⟩ := List.forall_mem_cons.mp blank
    rw [List.cons_append,attributesFrom,if_pos gap,ih blank]

lemma attributesFrom_value (key : List Char) {quote : Char} (inside : quote ∉ cs) (read rest : List Char) :
    attributesFrom (.value key quote read) (cs ++ quote :: rest) =
      (attributesFrom .gap rest).map ((key,read.reverse ++ cs) :: ·) := by
  induction cs generalizing read with
  | nil => rw [List.nil_append,attributesFrom,if_pos (beq_self_eq_true quote),List.append_nil]
  | cons c cs ih =>
    rw [List.mem_cons,not_or] at inside
    rw [List.cons_append,attributesFrom,if_neg (by simpa using Ne.symm inside.1),ih inside.2,List.reverse_cons,
      List.append_assoc]
    rfl

lemma attributesFrom_equals (read : List Char) (blank : Gap cs) (rest : List Char) :
    attributesFrom (.key read) (cs ++ '=' :: rest) = attributesFrom (.beforeValue read.reverse) rest := by
  cases cs with
  | nil => rfl
  | cons c cs =>
    obtain ⟨gap,blank⟩ := List.forall_mem_cons.mp blank
    have other : c ≠ '=' := by
      rintro rfl
      cases gap
    rw [List.cons_append,attributesFrom,if_neg (by simpa using other),if_pos gap,attributesFrom_beforeEquals _ blank]

lemma Written.attributesFrom {raw : List Char} {as : List (List Char × List Char)} (h : Written raw as) :
    Xml.attributesFrom .gap raw = some as := by
  induction h with
  | @last gap blank =>
    have read := attributesFrom_gap blank []
    rwa [List.append_nil] at read
  | @next gap key before after value rest quote as apart blank name blankBefore blankAfter mark inside more ih =>
    obtain ⟨k,ks,rfl⟩ := List.exists_cons_of_ne_nil name.filled
    obtain ⟨first,plain⟩ := List.forall_mem_cons.mp name.plain
    rw [List.append_assoc,List.append_assoc,attributesFrom_gap blank,List.cons_append,Xml.attributesFrom,
      if_neg (by simp [not_isGap_of_isNameChar first]),attributesFrom_key plain,attributesFrom_equals _ blankBefore,
      attributesFrom_beforeValue _ blankAfter mark,attributesFrom_value _ inside,ih]
    simp

lemma Attributes.attributes? {raw : List Char} {as : List (List Char × List Char)} (h : Attributes raw as) :
    Xml.attributes? raw = some as := by
  rw [Xml.attributes?,h.written.attributesFrom,Option.filter_some_pos (by simpa using h.distinct)]

end Reading

end Recon.Xml
