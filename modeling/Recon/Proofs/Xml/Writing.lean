import Recon.Proofs.Xml.Document

/-! Elements written with no more than is needed: their attributes in double quotation marks, what needs it as a
reference, and nothing between them. -/
namespace Recon.Xml

section Escapes

def escapedChar (c : Char) : List Char :=
  match entities.find? (·.2 == c) with
  | some (name,_) => '&' :: (name ++ [';'])
  | none => [c]

/-- A text in which each character that has a name is a reference. -/
def escaped (cs : List Char) : List Char := cs.flatMap escapedChar

variable {c : Char} {raw cs : List Char}

lemma Spelling.escapedChar_append (rest : Spelling raw cs) (c : Char) : Spelling (escapedChar c ++ raw) (c :: cs) := by
  unfold escapedChar
  split
  · next name d found =>
    have entity : (name,d) ∈ entities := List.mem_of_find?_eq_some found
    obtain rfl : d = c := by simpa using List.find?_some found
    simpa using Spelling.reference (.named entity) rest
  · next missing =>
    refine .plain ?_ rest
    rintro rfl
    exact absurd missing (by decide)

lemma spelling_escaped (cs : List Char) : Spelling (escaped cs) cs := by
  induction cs with
  | nil => exact .nil
  | cons c cs ih => exact ih.escapedChar_append c

lemma quote_not_mem_entities : ∀ e ∈ entities, '"' ∉ '&' :: (e.1 ++ [';']) := by decide

lemma quote_not_mem_escaped (cs : List Char) : '"' ∉ escaped cs := by
  intro inside
  obtain ⟨c,-,here⟩ := List.mem_flatMap.mp inside
  unfold escapedChar at here
  split at here
  · next found => exact quote_not_mem_entities _ (List.mem_of_find?_eq_some found) here
  · next missing =>
    obtain rfl := List.mem_singleton.mp here
    exact absurd missing (by decide)

end Escapes

section Elements

/-- An attribute with its blank in front. -/
def attributeText (key value : List Char) : List Char := ' ' :: (key ++ '=' :: '"' :: (value ++ ['"']))

def attributesText (as : List (List Char × List Char)) : List Char := as.flatMap fun a => attributeText a.1 a.2

/-- Attributes that can be written in double quotation marks. -/
structure Legible (as : List (List Char × List Char)) : Prop where
  named : ∀ a ∈ as, IsName a.1
  unquoted : ∀ a ∈ as, '"' ∉ a.2
  distinct : (as.map (·.1)).Nodup

def elementText (name : List Char) (as : List (List Char × List Char)) (inner : List Char) : List Char :=
  '<' :: (name ++ attributesText as ++ '>' :: (inner ++ '<' :: '/' :: (name ++ ['>'])))

variable {name inner : List Char} {as : List (List Char × List Char)} {children : List Node}

lemma written_attributesText (named : ∀ a ∈ as, IsName a.1) (unquoted : ∀ a ∈ as, '"' ∉ a.2) :
    Written (attributesText as) as := by
  induction as with
  | nil => exact .last (by decide)
  | cons a as ih =>
    rw [List.forall_mem_cons] at named unquoted
    have blank : Gap [' '] := by decide
    have nothing : Gap [] := by decide
    have whole := Written.next (List.cons_ne_nil ' ' []) blank named.1 nothing nothing (.inl rfl) unquoted.1
      (ih named.2 unquoted.2)
    simpa [attributesText,attributeText] using whole

lemma Legible.attributes (h : Legible as) : Attributes (attributesText as) as :=
  ⟨written_attributesText h.named h.unquoted,h.distinct⟩

/-- A text is written for a node when it can stand before any contents. -/
def Writes (text : List Char) (node : Node) : Prop := ∀ cs ns, Contents cs ns → Contents (text ++ cs) (node :: ns)

lemma run_nil : Run [] := ⟨List.not_mem_nil,[],.nil⟩

lemma encloses_elementText (name : List Char) (as : List (List Char × List Char)) (inner : List Char) :
    Encloses name (attributesText as) inner (elementText name as inner) := by
  have blank : Gap [] := by decide
  have pair : Encloses name (attributesText as) inner _ := .pair blank
  simpa [elementText] using pair

lemma writes_elementText (named : IsName name) (legible : Legible as) (inside : Contents inner children) :
    Writes (elementText name as inner) (.element name (attributesText as) children) := by
  intro cs ns more
  exact Contents.element run_nil named legible.attributes inside (encloses_elementText name as inner) more

section Lists

variable {α : Type} {text : α → List Char} {node : α → Node}

lemma contents_flatMap_append (writes : ∀ a, Writes (text a) (node a)) (items : List α) {cs : List Char}
    {ns : List Node} (more : Contents cs ns) : Contents (items.flatMap text ++ cs) (items.map node ++ ns) := by
  induction items with
  | nil => exact more
  | cons a items ih =>
    rw [List.flatMap_cons,List.append_assoc]
    exact writes a _ _ ih

/-- Items written one after the other. -/
theorem contents_flatMap (writes : ∀ a, Writes (text a) (node a)) (items : List α) :
    Contents (items.flatMap text) (items.map node) := by
  have whole := contents_flatMap_append writes items (.last run_nil)
  rwa [List.append_nil,runNodes,if_pos List.isEmpty_nil,List.append_nil] at whole

end Lists

end Elements

end Recon.Xml
