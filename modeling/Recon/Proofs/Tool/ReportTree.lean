import Mathlib.Data.List.Forall2
import Recon.Proofs.Xml.Document
import Recon.Tool.Nmap

/-! Items in a tree of elements. Attributes and elements are found by their names among whatever others there are, each
item of a list in its order. -/
namespace Recon.Nmap

open Xml

variable {α : Type} {name : String}

/-- A name without a namespace that declares none. -/
structure Plain (name : String) : Prop where
  whole : localName name.toList = name.toList
  telling : isNamespace name.toList = false

instance (name : String) : Decidable (Plain name) :=
  decidable_of_iff (localName name.toList = name.toList ∧ isNamespace name.toList = false)
    ⟨fun ⟨whole,telling⟩ => ⟨whole,telling⟩,fun ⟨whole,telling⟩ => ⟨whole,telling⟩⟩

/-- Among attributes the one with a name has some value, or is missing; about others nothing is said. -/
inductive Tells (R : List Char → α → Prop) (name : String) : List (List Char × List Char) → Option α → Prop
  | nil : Tells R name [] none
  | other {key raw : List Char} {as : List (List Char × List Char)} {o : Option α}
      (unlike : isNamespace key = true ∨ localName key ≠ name.toList) (more : Tells R name as o) :
      Tells R name ((key,raw) :: as) o
  | own {raw : List Char} {a : α} {as : List (List Char × List Char)} (means : R raw a) (more : Tells R name as none) :
      Tells R name ((name.toList,raw) :: as) (some a)

/-- Among nodes the elements with a name are some items, in order; about other elements nothing is said. -/
inductive Items (P : List Char → List Node → α → Prop) (name : String) : List Node → List α → Prop
  | nil : Items P name [] []
  | gap {raw : List Char} {ns : List Node} {is : List α} (blank : Gap raw) (more : Items P name ns is) :
      Items P name (.text raw :: ns) is
  | other {n raw : List Char} {children ns : List Node} {is : List α} (unlike : localName n ≠ name.toList)
      (more : Items P name ns is) : Items P name (.element n raw children :: ns) is
  | own {raw : List Char} {children ns : List Node} {i : α} {is : List α} (item : P raw children i)
      (more : Items P name ns is) : Items P name (.element name.toList raw children :: ns) (i :: is)

lemma Tells.valuesOf {R : List Char → α → Prop} {as : List (List Char × List Char)} {o : Option α}
    (h : Tells R name as o) (plain : Plain name) : List.Forall₂ R (Xml.valuesOf name.toList as) o.toList := by
  induction h with
  | nil => exact .nil
  | other unlike more ih =>
    rw [Xml.valuesOf,List.filter_cons_of_neg]
    · exact ih
    · rw [Bool.and_eq_true,not_and_or]
      simpa using unlike
  | own means more ih =>
    rw [Xml.valuesOf,List.filter_cons_of_pos (by simp [plain.whole,plain.telling])]
    exact .cons means ih

lemma Tells.required? {R : List Char → α → Prop} {as : List (List Char × List Char)} {o : Option α}
    (h : Tells R name as o) (plain : Plain name) : Option.Rel R (Nmap.required? name as) o := by
  have values := h.valuesOf plain
  rw [Nmap.required?]
  cases o with
  | none =>
    rw [List.forall₂_nil_right_iff.mp values]
    exact .none
  | some a =>
    obtain ⟨raw,raws,means,rest,spelled⟩ := List.forall₂_cons_right_iff.mp values
    rw [spelled,List.forall₂_nil_right_iff.mp rest]
    exact .some means

/-- The raw text of an attribute, as some string is spelled. -/
def Spells (raw : List Char) (s : String) : Prop := Spelling raw s.toList

lemma Tells.text? {as : List (List Char × List Char)} {o : Option String} (h : Tells Spells name as o)
    (plain : Plain name) : Nmap.text? name as = o := by
  have required := h.required? plain
  rw [Nmap.text?]
  generalize Nmap.required? name as = found at required ⊢
  cases required with
  | none => rfl
  | @some raw s spells =>
    have read : unescape? raw = some s.toList := spells.unescape?
    rw [Option.bind_some,read,Option.map_some,String.ofList_toList]

lemma Tells.textOrEmpty? {as : List (List Char × List Char)} {o : Option String} (h : Tells Spells name as o)
    (plain : Plain name) : Nmap.textOrEmpty? name as = some (o.getD "") := by
  have values := h.valuesOf plain
  rw [Nmap.textOrEmpty?,h.text? plain]
  cases o with
  | none =>
    rw [List.forall₂_nil_right_iff.mp values]
    rfl
  | some s =>
    obtain ⟨raw,raws,-,-,spelled⟩ := List.forall₂_cons_right_iff.mp values
    rw [spelled]
    rfl

/-- The elements among nodes. -/
def elementsOf : List Node → List (List Char × List Char × List Node)
  | [] => []
  | .element n raw children :: ns => (n,raw,children) :: elementsOf ns
  | _ :: ns => elementsOf ns

lemma elements?_of_areReadable {ns : List Node} (readable : areReadable ns = true) :
    elements? ns = some (elementsOf ns) := by
  induction ns with
  | nil => rfl
  | cons n ns ih =>
    rw [areReadable,Bool.and_eq_true] at readable
    cases n with
    | text raw =>
      have shown : Xml.isReadable raw = true := by simpa [Node.isReadable] using readable.1
      rw [elements?,if_pos shown,ih readable.2]
      rfl
    | cdata content => exact ih readable.2
    | element n raw children => rw [elements?,ih readable.2]; rfl

variable {P : List Char → List Node → α → Prop} {ns : List Node} {is : List α}

/-- The item that an element with its attributes and nodes is. -/
def Item (P : List Char → List Node → α → Prop) (e : List Char × List Node) (i : α) : Prop :=
  P e.1 e.2 i ∧ areReadable e.2 = true

lemma Items.elementsOf (h : Items P name ns is) (plain : Plain name) (readable : areReadable ns = true) :
    List.Forall₂ (fun e => Item P e.2) ((Nmap.elementsOf ns).filter fun e => localName e.1 == name.toList) is := by
  induction h with
  | nil => exact .nil
  | gap blank more ih =>
    rw [areReadable,Bool.and_eq_true] at readable
    exact ih readable.2
  | other unlike more ih =>
    rw [areReadable,Bool.and_eq_true] at readable
    rw [Nmap.elementsOf,List.filter_cons_of_neg (by simpa using unlike)]
    exact ih readable.2
  | own item more ih =>
    rw [areReadable,Node.isReadable,Bool.and_eq_true] at readable
    rw [Nmap.elementsOf,List.filter_cons_of_pos (by simp [plain.whole])]
    exact .cons ⟨item,readable.1⟩ (ih readable.2)

lemma Items.single? {o : Option α} (h : Items P name ns o.toList) (plain : Plain name)
    (readable : areReadable ns = true) :
    ∃ found, Nmap.single? name (Nmap.elementsOf ns) = some found ∧ Option.Rel (Item P) found o := by
  have items := h.elementsOf plain readable
  rw [Nmap.single?]
  cases o with
  | none =>
    rw [List.forall₂_nil_right_iff.mp items]
    exact ⟨none,rfl,.none⟩
  | some i =>
    obtain ⟨⟨n,raw,children⟩,es,item,rest,spelled⟩ := List.forall₂_cons_right_iff.mp items
    rw [spelled,List.forall₂_nil_right_iff.mp rest]
    exact ⟨some (raw,children),rfl,.some item⟩

lemma Items.followers? (h : Items P name ns is) (plain : Plain name) (readable : areReadable ns = true) :
    ∃ found, Nmap.followers? name.toList ns = some found ∧ List.Forall₂ (Item P) found is := by
  induction h with
  | nil => exact ⟨[],rfl,.nil⟩
  | gap blank more ih =>
    rw [areReadable,Bool.and_eq_true] at readable
    rw [Nmap.followers?,if_pos (List.all_eq_true.mpr blank)]
    exact ih readable.2
  | @other n raw children ns is unlike more ih =>
    rw [areReadable,Node.isReadable,Bool.and_eq_true] at readable
    have differs : n ≠ name.toList := by
      rintro rfl
      exact unlike plain.whole
    rw [Nmap.followers?,if_neg (by simpa using differs),if_neg (by simp [plain.whole,unlike,readable.1])]
    exact ih readable.2
  | @own raw children ns i is item more ih =>
    rw [areReadable,Node.isReadable,Bool.and_eq_true] at readable
    obtain ⟨found,read,items⟩ := ih readable.2
    rw [Nmap.followers?,if_pos (beq_self_eq_true _),read]
    exact ⟨(raw,children) :: found,rfl,.cons ⟨item,readable.1⟩ items⟩

/-- Every item of a list is found, whatever stands between them. -/
theorem Items.listed? (h : Items P name ns is) (plain : Plain name) (readable : areReadable ns = true) :
    ∃ found, Nmap.listed? name.toList ns = some found ∧ List.Forall₂ (Item P) found is := by
  induction h with
  | nil => exact ⟨[],rfl,.nil⟩
  | @gap raw ns is blank more ih =>
    rw [areReadable,Bool.and_eq_true] at readable
    have shown : Xml.isReadable raw = true := by simpa [Node.isReadable] using readable.1
    rw [Nmap.listed?,if_pos shown]
    exact ih readable.2
  | other unlike more ih =>
    rw [areReadable,Bool.and_eq_true] at readable
    rw [Nmap.listed?,if_neg (by simpa using unlike)]
    exact ih readable.2
  | @own raw children ns i is item more ih =>
    rw [areReadable,Node.isReadable,Bool.and_eq_true] at readable
    obtain ⟨found,read,items⟩ := more.followers? plain readable.2
    rw [Nmap.listed?,if_pos (by simp [plain.whole]),read]
    exact ⟨(raw,children) :: found,rfl,.cons ⟨item,readable.1⟩ items⟩

end Recon.Nmap
