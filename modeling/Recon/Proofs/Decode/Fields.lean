import Recon.Codec.Payload
import Recon.Proofs.Cli.Selection

/-! Reading what was written. A record is read from any table whose keys are its fields, each at most once, when
every field reads what is looked up under its name, or has its default where nothing is. -/
namespace Recon

variable {α β : Type}

section Values

@[simp] lemma Decode.text_text (s : String) : Decode.text (.text s) = .ok s := rfl

@[simp] lemma Decode.bool_bool (b : Bool) : Decode.bool (.bool b) = .ok b := rfl

lemma Decode.below_ofNat {bound n : Nat} (h : n < bound) : Decode.below bound (.ofNat n) = .ok n := by
  have inside : (0 : Int) ≤ n ∧ (n : Int) < bound := by omega
  rw [Value.ofNat,Decode.below,if_pos inside]
  rfl

lemma Decode.uint64_ofNat (n : UInt64) : Decode.uint64 (.ofNat n.toNat) = .ok n := by
  rw [Decode.uint64,Decode.below_ofNat n.toNat_lt]
  exact congrArg Except.ok UInt64.ofNat_toNat

lemma Decode.uint16_ofNat (n : UInt16) : Decode.uint16 (.ofNat n.toNat) = .ok n := by
  rw [Decode.uint16,Decode.below_ofNat n.toNat_lt]
  exact congrArg Except.ok UInt16.ofNat_toNat

/-- A list is read back when each of its items is. -/
theorem Decode.list_map {encode : α → Value} {d : Value → Decoded α} {as : List α}
    (h : ∀ a ∈ as, d (encode a) = .ok a) : Decode.list d (.list (as.map encode)) = .ok as := by
  change Decode.items d (as.map encode) = .ok as
  induction as with
  | nil => rfl
  | cons a as ih =>
    rw [List.forall_mem_cons] at h
    rw [List.map_cons,Decode.items,h.1,ih h.2]
    rfl

lemma Decode.texts_texts (items : List String) : Decode.texts (.texts items) = .ok items :=
  Decode.list_map fun _ _ => rfl

/-- A name is read back from its text. -/
theorem Decode.name_text (format : Format) {ofName? : String → Option α} {s : String} {a : α}
    (h : ofName? s = some a) : Decode.name format ofName? (.text s) = .ok a := by
  rw [Decode.name,h]
  rfl

lemma Decode.optional_of_ok {d : Value → Decoded α} {v : Value} {a : α} (notNull : v ≠ .null)
    (h : d v = .ok a) : Decode.optional d v = .ok (some a) := by
  unfold Decode.optional
  split
  · exact absurd rfl notNull
  · rw [h]
    rfl

lemma Decode.ok_of_optional {d : Value → Decoded α} {v : Value} {a : α}
    (h : Decode.optional d v = .ok (some a)) : d v = .ok a := by
  unfold Decode.optional at h
  split at h
  · cases h
  · cases read : d v with
    | error fault =>
      rw [read] at h
      cases h
    | ok b =>
      rw [read] at h
      cases h
      rfl

lemma Decode.tagged_of_some {d : String → Option (Value → Decoded α)} {tag : String} {read : Value → Decoded α}
    (h : d tag = some read) (v : Value) : Decode.tagged d (.table [(tag,v)]) = read v := by
  simp [Decode.tagged,h]

end Values

section Present

/-- What is only written when set is found when set. -/
theorem lookup?_append_present {name : String} {es : List (String × Value)} (new : lookup? name es = none)
    (o : Option Value) : lookup? name (es ++ Value.present name o) = o := by
  rw [lookup?_append,new]
  cases o with
  | none => rfl
  | some v => simp [Value.present,lookup?]

lemma lookup?_append_present_of_ne {name other : String} (h : other ≠ name) (es : List (String × Value))
    (o : Option Value) : lookup? name (es ++ Value.present other o) = lookup? name es := by
  rw [lookup?_append]
  cases o with
  | none => exact Option.or_none
  | some v => simp [Value.present,lookup?,h]

lemma keys_append_present {es : List (String × Value)} {names : List String}
    (h : List.Sublist (es.map (·.1)) names) (name : String) (o : Option Value) :
    List.Sublist ((es ++ Value.present name o).map (·.1)) (names ++ [name]) := by
  rw [List.map_append]
  refine h.append ?_
  cases o with
  | none => exact List.nil_sublist _
  | some v => exact List.Sublist.refl _

end Present

/-- With unique keys every entry is found under its key. -/
theorem lookup?_of_mem {key : String} {value : α} {entries : List (String × α)} (unique : (entries.map (·.1)).Nodup)
    (inside : (key,value) ∈ entries) : lookup? key entries = some value := by
  obtain ⟨front,back,rfl⟩ := List.append_of_mem inside
  refine lookup?_eq_some_iff.mpr ⟨front,back,rfl,fun e listed same => ?_⟩
  rw [List.map_append,List.map_cons,List.nodup_append] at unique
  exact unique.2.2 e.1 (List.mem_map_of_mem listed) key List.mem_cons_self same

lemma lookup?_of_not_mem {key : String} {entries : List (String × α)} (absent : key ∉ entries.map (·.1)) :
    lookup? key entries = none := by
  rw [Option.eq_none_iff_forall_ne_some]
  intro value found
  obtain ⟨front,back,rfl,-⟩ := lookup?_eq_some_iff.mp found
  simp at absent

lemma Placed.both_eq_ok_iff {x : Placed α} {y : Placed β} {a : α} {b : β} :
    Placed.both x y = .ok (a,b) ↔ x = .ok a ∧ y = .ok b := by
  cases x <;> cases y <;> simp [Placed.both]

namespace Fields

lemma occurrences_eq_nil {name : String} {es : List (String × Value)} (i : Nat)
    (h : name ∉ es.map (·.1)) : occurrences [name] i es = [] := by
  induction es generalizing i with
  | nil => rfl
  | cons e es ih =>
    obtain ⟨key,v⟩ := e
    rw [List.map_cons,List.mem_cons,not_or] at h
    have other : [name].contains key = false := by simpa using Ne.symm h.1
    rw [occurrences,other]
    exact ih _ h.2

lemma occurrences_congr {names names' : List String} {es : List (String × Value)}
    (same : ∀ key ∈ es.map (·.1), names.contains key = names'.contains key) (i : Nat) :
    occurrences names i es = occurrences names' i es := by
  induction es generalizing i with
  | nil => rfl
  | cons e es ih =>
    obtain ⟨key,v⟩ := e
    rw [List.map_cons,List.forall_mem_cons] at same
    rw [occurrences,occurrences,same.1,ih same.2]

/-- With unique keys a name occurs where it is looked up, and nowhere else. -/
theorem occurrences_of_nodup {es : List (String × Value)} (unique : (es.map (·.1)).Nodup) (name : String) (i : Nat) :
    (occurrences [name] i es = [] ∧ lookup? name es = none) ∨
      ∃ j v, occurrences [name] i es = [(j,v)] ∧ lookup? name es = some v := by
  induction es generalizing i with
  | nil => exact .inl ⟨rfl,rfl⟩
  | cons e es ih =>
    obtain ⟨key,v⟩ := e
    rw [List.map_cons,List.nodup_cons] at unique
    by_cases same : key = name
    · subst same
      have here : [key].contains key = true := by simp
      refine .inr ⟨i,v,?_,by simp [lookup?]⟩
      rw [occurrences,here,if_pos rfl,occurrences_eq_nil _ unique.1]
    · have other : [name].contains key = false := by simpa using same
      rw [occurrences,other,lookup?,if_neg same]
      exact ih unique.2 _

/-- In `es` the fields hold `a`, provided that no key occurs twice. -/
def Finds (es : List (String × Value)) (f : Fields α) (a : α) : Prop :=
  (es.map (·.1)).Nodup → f.ofTable es = .ok a

variable {es : List (String × Value)}

lemma Finds.named {name : String} {d : Value → Decoded α} {absent : Decoded α} {a : α}
    (h : (lookup? name es).elim absent d = .ok a) : Finds es (Fields.named [name] d absent) a := by
  intro unique
  obtain ⟨occurs,looked⟩ | ⟨j,v,occurs,looked⟩ := occurrences_of_nodup unique name 0
  · rw [looked] at h
    have default : absent = .ok a := h
    simp [Fields.named,occurs,default,Except.mapError]
  · rw [looked] at h
    have read : d v = .ok a := h
    simp [Fields.named,occurs,read]

lemma Finds.found {name : String} {d : Value → Decoded α} {absent : Decoded α} {v : Value} {a : α}
    (looked : lookup? name es = some v) (read : d v = .ok a) : Finds es (Fields.named [name] d absent) a := by
  apply Finds.named
  rw [looked]
  exact read

lemma Finds.missing {name : String} {d : Value → Decoded α} {default : α} (looked : lookup? name es = none) :
    Finds es (Fields.withDefault name d default) default := by
  apply Finds.named
  rw [looked]
  rfl

lemma Finds.text {name s : String} {absent : Decoded String} (looked : lookup? name es = some (.text s)) :
    Finds es (Fields.named [name] Decode.text absent) s :=
  .found looked rfl

/-- A part that is only written when set is found, set or not. -/
theorem Finds.optional {name : String} {encode : α → Value} {d : Value → Decoded α} {o : Option α}
    (looked : lookup? name es = o.map encode) (notNull : ∀ a, encode a ≠ .null)
    (read : ∀ a ∈ o, d (encode a) = .ok a) : Finds es (Fields.withDefault name (Decode.optional d) none) o := by
  apply Finds.named
  rw [looked]
  cases o with
  | none => rfl
  | some a => exact Decode.optional_of_ok (notNull a) (read a rfl)

/-- Other names for a field do not count as long as no key has them. -/
theorem Finds.alias {name : String} {others : List String} {d : Value → Decoded α} {absent : Decoded α} {a : α}
    (unused : ∀ other ∈ others, other ∉ es.map (·.1)) (h : Finds es (Fields.named [name] d absent) a) :
    Finds es (Fields.named (name :: others) d absent) a := by
  intro unique
  have same : Fields.occurrences (name :: others) 0 es = Fields.occurrences [name] 0 es :=
    occurrences_congr (fun key listed => by
      have other : key ∉ others := fun used => unused key used listed
      simp [other]) 0
  have held := h unique
  simp only [Fields.named] at held ⊢
  rw [same]
  exact held

/-- With unique keys a field holds what is read from under its name. -/
theorem read_of_ofTable_withDefault {name : String} {d : Value → Decoded α} {default : α} {v : Value} {a : α}
    (held : (Fields.withDefault name d default).ofTable es = .ok a) (unique : (es.map (·.1)).Nodup)
    (looked : lookup? name es = some v) : d v = .ok a := by
  obtain ⟨-,missing⟩ | ⟨j,v',occurs,found⟩ := occurrences_of_nodup unique name 0
  · cases missing.symm.trans looked
  · obtain rfl : v' = v := Option.some.inj (found.symm.trans looked)
    simp only [Fields.withDefault,Fields.named,occurs] at held
    cases read : d v' with
    | error fault =>
      rw [read] at held
      cases held
    | ok b =>
      rw [read] at held
      exact congrArg Except.ok (Except.ok.inj held)

lemma ofTable_and_iff {f : Fields α} {g : Fields β} {a : α} {b : β} :
    (f.and g).ofTable es = .ok (a,b) ↔ f.ofTable es = .ok a ∧ g.ofTable es = .ok b :=
  Placed.both_eq_ok_iff

lemma Finds.and {f : Fields α} {g : Fields β} {a : α} {b : β} (hf : Finds es f a) (hg : Finds es g b) :
    Finds es (f.and g) (a,b) := fun unique =>
  ofTable_and_iff.mpr ⟨hf unique,hg unique⟩

lemma Finds.map {f : Fields α} {h : α → β} {a : α} {b : β} (hf : Finds es f a) (same : h a = b) :
    Finds es (f.map h) b := by
  intro unique
  change (f.ofTable es).map h = _
  rw [hf unique,← same]
  rfl

lemma exists_of_ofTable_map {f : Fields α} {h : α → β} {b : β} (held : (f.map h).ofTable es = .ok b) :
    ∃ a, f.ofTable es = .ok a ∧ h a = b := by
  change (f.ofTable es).map h = .ok b at held
  cases found : f.ofTable es with
  | error fault =>
    rw [found] at held
    cases held
  | ok a =>
    rw [found] at held
    exact ⟨a,rfl,Except.ok.inj held⟩

lemma strangers_of_known {names : List String} (known : ∀ key ∈ es.map (·.1), key ∈ names) (i : Nat) :
    strangers names i es = .ok () := by
  induction es generalizing i with
  | nil => rfl
  | cons e es ih =>
    obtain ⟨key,v⟩ := e
    rw [List.map_cons,List.forall_mem_cons] at known
    have own : names.contains key = true := by simpa using known.1
    unfold strangers
    simp only [own,Bool.true_or,if_true]
    exact ih known.2 _

/-- The keys are fields, in any order and each at most once. -/
theorem decode_of_known {f : Fields α} {a : α} (format : Format) (unique : (es.map (·.1)).Nodup)
    (known : ∀ key ∈ es.map (·.1), key ∈ f.names) (h : Finds es f a) : f.decode format (.table es) = .ok a := by
  rw [Fields.decode,h unique,strangers_of_known known 0]
  rfl

/-- The keys are fields, in the order of the fields. -/
theorem decode_of_finds {f : Fields α} {a : α} (format : Format) (unique : f.names.Nodup)
    (keys : List.Sublist (es.map (·.1)) f.names) (h : Finds es f a) : f.decode format (.table es) = .ok a :=
  decode_of_known format (unique.sublist keys) (fun _ listed => keys.subset listed) h

lemma ofTable_of_decode {format : Format} {f : Fields α} {a : α} (read : f.decode format (.table es) = .ok a) :
    f.ofTable es = .ok a := by
  simp only [Fields.decode] at read
  split at read
  · cases read
  · next held =>
    cases read
    exact (Placed.both_eq_ok_iff.mp held).1

/-- A record under another name is read in the same way. -/
theorem decode_map (format : Format) (h : α → β) (f : Fields α) (v : Value) :
    (f.map h).decode format v = (f.decode format v).map h := by
  cases v with
  | table es =>
    simp only [Fields.decode,Fields.map]
    cases f.ofTable es <;> cases strangers f.names 0 es <;> rfl
  | list vs =>
    simp only [Fields.decode,Fields.map]
    cases f.ofItems vs with
    | error fault => rfl
    | ok found =>
      obtain ⟨a,rest⟩ := found
      simp only [Except.map]
      split <;> rfl
  | _ => rfl

end Fields
end Recon
