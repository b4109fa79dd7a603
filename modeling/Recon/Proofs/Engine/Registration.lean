import Mathlib.Data.List.Dedup
import Mathlib.Data.String.Basic
import Recon.Proofs.Engine.Success
import Recon.Tool.Adapter

/-! What a registry answers after any calls that register scanners. The first scanner under a name stays; a call
that is refused leaves no trace; all listings are views of one list, sorted by name, and scanners of different
names may come in any order. -/
namespace Recon
namespace Registry

/-- The three outcomes of a call. -/
theorem register_cases (r : Registry) (s : Scanner) :
    (s.name = "" ∧ r.register s = .error (.invalidConfig "scanner name must not be empty")) ∨
    (s.name ≠ "" ∧ s.name ∈ r.names ∧ r.register s = .error (.scannerAlreadyExists s.name)) ∨
    (s.name ≠ "" ∧ s.name ∉ r.names ∧ ∃ next, r.register s = .ok next ∧ next.scanners = r.scanners ++ [s]) := by
  unfold register
  by_cases unnamed : s.name = ""
  · exact Or.inl ⟨unnamed,by rw [dif_pos unnamed]⟩
  · by_cases taken : s.name ∈ r.scanners.map (·.name)
    · exact Or.inr (Or.inl ⟨unnamed,taken,by rw [dif_neg unnamed,dif_pos taken]⟩)
    · exact Or.inr (Or.inr ⟨unnamed,taken,_,by rw [dif_neg unnamed,dif_neg taken],rfl⟩)

lemma scanners_of_register {r next : Registry} {s : Scanner} (h : r.register s = .ok next) :
    next.scanners = r.scanners ++ [s] := by
  obtain ⟨_,hr⟩ | ⟨_,_,hr⟩ | ⟨_,_,other,hr,hs⟩ := r.register_cases s
  · rw [h] at hr
    cases hr
  · rw [h] at hr
    cases hr
  · rw [h] at hr
    cases hr
    exact hs

lemma mem_of_registerAll {r : Registry} {scanners : List Scanner} {s : Scanner}
    (h : s ∈ (r.registerAll scanners).1.scanners) : s ∈ r.scanners ∨ s ∈ scanners := by
  induction scanners generalizing r with
  | nil => exact Or.inl h
  | cons t scanners ih =>
    unfold registerAll at h
    cases ht : r.register t with
    | error error =>
      simp only [ht] at h
      exact Or.inl h
    | ok next =>
      simp only [ht] at h
      obtain hs | hs := ih h
      · rw [scanners_of_register ht,List.mem_append,List.mem_singleton] at hs
        obtain hs | rfl := hs
        · exact Or.inl hs
        · exact Or.inr List.mem_cons_self
      · exact Or.inr (List.mem_cons_of_mem t hs)

/-- The registry after a call; one that is refused leaves it as it was. -/
def call (r : Registry) (s : Scanner) : Registry :=
  match r.register s with
  | .ok next => next
  | .error _ => r

/-- The registry after some calls, in their order. -/
def callAll (r : Registry) (calls : List Scanner) : Registry := calls.foldl call r

/-- What calls make of a registry that starts empty. -/
def after (calls : List Scanner) : Registry := empty.callAll calls

lemma call_of_error {r : Registry} {s : Scanner} {error : ScanError} (h : r.register s = .error error) :
    r.call s = r := by
  simp only [call,h]

lemma call_of_ok {r next : Registry} {s : Scanner} (h : r.register s = .ok next) : r.call s = next := by
  simp only [call,h]

@[simp] lemma callAll_append (r : Registry) (earlier later : List Scanner) :
    r.callAll (earlier ++ later) = (r.callAll earlier).callAll later := List.foldl_append

@[simp] lemma callAll_cons (r : Registry) (s : Scanner) (later : List Scanner) :
    r.callAll (s :: later) = (r.call s).callAll later := rfl

section Find

variable {r : Registry} {s : Scanner} {name : String}

lemma find?_eq_some_iff : r.find? name = some s ↔ s ∈ r.scanners ∧ s.name = name := by
  unfold find?
  constructor
  · intro h
    exact ⟨List.mem_of_find?_eq_some h,by simpa using List.find?_some h⟩
  · rintro ⟨hs,rfl⟩
    cases hf : r.scanners.find? (·.name == s.name) with
    | none =>
      have hn := List.find?_eq_none.mp hf s hs
      simp at hn
    | some t =>
      have ht : t.name = s.name := by simpa using List.find?_some hf
      rw [List.inj_on_of_nodup_map r.nodup (List.mem_of_find?_eq_some hf) hs ht]

lemma find?_eq_none_iff : r.find? name = none ↔ name ∉ r.names := by
  unfold find? names
  simp

/-- The answers to a look-up. -/
theorem get_cases (r : Registry) (name : String) :
    (name ∉ r.names ∧ r.get name = .error (.scannerNotFound name)) ∨
    ∃ s ∈ r.scanners, s.name = name ∧
      ((s.available = true ∧ r.get name = .ok s) ∨
        (s.available = false ∧ r.get name = .error (.scannerNotAvailable name))) := by
  unfold get
  cases hf : r.find? name with
  | none => exact Or.inl ⟨find?_eq_none_iff.mp hf,rfl⟩
  | some s =>
    obtain ⟨hs,hn⟩ := find?_eq_some_iff.mp hf
    refine Or.inr ⟨s,hs,hn,?_⟩
    cases ha : s.available with
    | true => exact Or.inl ⟨rfl,by simp [ha]⟩
    | false => exact Or.inr ⟨rfl,by simp [ha]⟩

/-- A call adds its scanner, unless it has no name or the name is taken. -/
theorem find?_call (r : Registry) (s : Scanner) (name : String) :
    (r.call s).find? name = (r.find? name).or (if s.name = name ∧ name ≠ "" then some s else none) := by
  obtain ⟨unnamed,hr⟩ | ⟨_,taken,hr⟩ | ⟨named,free,next,hr,hs⟩ := r.register_cases s
  · rw [call_of_error hr,if_neg fun h => h.2 (h.1 ▸ unnamed),Option.or_none]
  · rw [call_of_error hr]
    by_cases hn : s.name = name ∧ name ≠ ""
    · rw [if_pos hn]
      cases hf : r.find? name with
      | none => exact absurd (hn.1 ▸ taken) (find?_eq_none_iff.mp hf)
      | some t => rfl
    · rw [if_neg hn,Option.or_none]
  · rw [call_of_ok hr]
    unfold find?
    rw [hs,List.find?_append]
    by_cases hn : s.name = name
    · subst hn
      simp [named]
    · simp [hn]

/-- Of the calls under a name the first counts. -/
theorem find?_callAll (r : Registry) (calls : List Scanner) (name : String) :
    (r.callAll calls).find? name =
      (r.find? name).or (if name = "" then none else calls.find? (·.name == name)) := by
  induction calls generalizing r with
  | nil => simp [callAll]
  | cons s calls ih =>
    rw [callAll_cons,ih,find?_call,Option.or_assoc]
    by_cases hs : s.name = name
    · by_cases unnamed : name = ""
      · simp [unnamed]
      · simp [hs,unnamed]
    · simp [hs]

/-- A scanner that is registered stays. -/
theorem mem_callAll (calls : List Scanner) (hs : s ∈ r.scanners) : s ∈ (r.callAll calls).scanners := by
  have found : (r.callAll calls).find? s.name = some s := by
    rw [find?_callAll,find?_eq_some_iff.mpr ⟨hs,rfl⟩]
    rfl
  exact (find?_eq_some_iff.mp found).1

lemma find?_after (calls : List Scanner) (name : String) :
    (after calls).find? name = if name = "" then none else calls.find? (·.name == name) :=
  find?_callAll empty calls name

end Find

lemma mem_names_after {calls : List Scanner} {name : String} :
    name ∈ (after calls).names ↔ name ≠ "" ∧ ∃ s ∈ calls, s.name = name := by
  rw [← not_iff_not,← find?_eq_none_iff,find?_after]
  by_cases unnamed : name = ""
  · simp [unnamed]
  · simp [unnamed]

/-- An earlier call registered that name. -/
def Taken (earlier : List Scanner) (name : String) : Prop :=
  ∃ before s rest, earlier = before ++ s :: rest ∧ s.name = name ∧ ∃ next, (after before).register s = .ok next

lemma taken_iff_mem_names {earlier : List Scanner} {name : String} :
    Taken earlier name ↔ name ∈ (after earlier).names := by
  rw [mem_names_after]
  constructor
  · rintro ⟨before,s,rest,rfl,rfl,next,hr⟩
    refine ⟨?_,s,by simp,rfl⟩
    obtain ⟨_,hn⟩ | ⟨named,_,_⟩ | ⟨named,_,_⟩ := (after before).register_cases s
    · rw [hr] at hn
      cases hn
    · exact named
    · exact named
  · rintro ⟨named,t,ht,rfl⟩
    -- the first call under the name was not refused
    obtain ⟨s,hs⟩ : ∃ s, earlier.find? (·.name == t.name) = some s := by
      rw [← Option.isSome_iff_exists,List.find?_isSome]
      exact ⟨t,ht,by simp⟩
    obtain ⟨hn,before,rest,rfl,first⟩ := List.find?_eq_some_iff_append.mp hs
    have hn : s.name = t.name := by simpa using hn
    refine ⟨before,s,rest,rfl,hn,?_⟩
    obtain ⟨unnamed,_⟩ | ⟨_,taken,_⟩ | ⟨_,_,next,hr,_⟩ := (after before).register_cases s
    · exact absurd (hn ▸ unnamed) named
    · obtain ⟨_,u,hu,hun⟩ := mem_names_after.mp taken
      have hf := first u hu
      simp [hun,hn] at hf
    · exact ⟨next,hr⟩

section Listings

variable (r : Registry)

lemma registered_perm : r.registered.Perm r.scanners := List.mergeSort_perm ..

/-- The scanners stand in the order of their names, each name once. -/
theorem registered_sorted : r.registered.Pairwise fun a b => a.name < b.name := by
  have ordered : r.registered.Pairwise fun a b => a.name ≤ b.name := by
    have h : r.registered.Pairwise fun a b => decide (a.name ≤ b.name) = true := List.pairwise_mergeSort
      (fun a b c hab hbc => by simpa using String.le_trans (by simpa using hab) (by simpa using hbc))
      (fun a b => by simpa using String.le_total a.name b.name) r.scanners
    exact h.imp fun h => by simpa using h
  have distinct : r.registered.Pairwise fun a b => a.name ≠ b.name := by
    have h := (r.registered_perm.map (·.name)).nodup_iff.mpr r.nodup
    exact List.pairwise_map.mp h
  exact (ordered.and distinct).imp fun h => lt_of_le_of_ne h.1 h.2

lemma mem_registered {s : Scanner} : s ∈ r.registered ↔ s ∈ r.scanners := r.registered_perm.mem_iff

lemma mem_available {s : Scanner} : s ∈ r.available ↔ s ∈ r.scanners ∧ s.available = true := by
  unfold available
  rw [List.mem_filter,mem_registered]

lemma mem_ofCategory {s : Scanner} {c : Category} :
    s ∈ r.ofCategory c ↔ s ∈ r.available ∧ s.category = c := by
  simp [ofCategory]

lemma nodup_available : r.available.Nodup := by
  have distinct : r.registered.Nodup := r.registered_sorted.imp fun {a b} h => by
    rintro rfl
    exact String.lt_irrefl _ h
  exact distinct.filter _

/-- Every scanner that can be used stands in the group of its category, and in no other. -/
theorem flatMap_ofCategory_perm : (Category.all.flatMap r.ofCategory).Perm r.available := by
  have groups : (Category.all.flatMap r.ofCategory).Nodup := by
    refine List.nodup_flatMap.mpr ⟨fun c _ => r.nodup_available.filter _,?_⟩
    have different : Category.all.Pairwise (· ≠ ·) := by decide
    refine different.imp fun hne s h₁ h₂ => hne ?_
    rw [← (r.mem_ofCategory.mp h₁).2,← (r.mem_ofCategory.mp h₂).2]
  rw [List.perm_ext_iff_of_nodup groups r.nodup_available]
  intro s
  rw [List.mem_flatMap]
  constructor
  · rintro ⟨c,_,hs⟩
    exact (r.mem_ofCategory.mp hs).1
  · intro hs
    exact ⟨s.category,s.category.mem_all,r.mem_ofCategory.mpr ⟨hs,rfl⟩⟩

lemma mem_byCategory {c : Category} {infos : List ScannerInfo} :
    (c,infos) ∈ r.byCategory ↔ infos = (r.ofCategory c).map Scanner.info ∧ infos ≠ [] := by
  unfold byCategory
  rw [List.mem_filter,List.mem_map]
  constructor
  · rintro ⟨⟨d,_,hd⟩,hn⟩
    cases hd
    exact ⟨rfl,by simpa using hn⟩
  · rintro ⟨rfl,hn⟩
    exact ⟨⟨c,c.mem_all,rfl⟩,by simpa using hn⟩

lemma byCategory_sublist : (r.byCategory.map (·.1)).Sublist Category.all := by
  have h := (List.filter_sublist (l := Category.all.map fun c => (c,(r.ofCategory c).map Scanner.info))
    (p := fun e => !e.2.isEmpty)).map (·.1)
  rw [List.map_map] at h
  simpa [byCategory,Function.comp_def] using h

end Listings

/-- The answers of a registry fit together: they are views of one list without repeated names, in which the
scanners stand in the order of their names. -/
structure Coherent (r : Registry) : Prop where
  sorted : r.registered.Pairwise fun a b => a.name < b.name
  size : r.size = r.registered.length
  listed : r.available = r.registered.filter (·.available)
  got : ∀ name s, r.get name = .ok s ↔ s ∈ r.available ∧ s.name = name
  notFound : ∀ name, r.get name = .error (.scannerNotFound name) ↔ name ∉ r.registered.map (·.name)
  notAvailable : ∀ name, r.get name = .error (.scannerNotAvailable name) ↔
    ∃ s ∈ r.registered, s.name = name ∧ s.available = false
  answered : ∀ name, (∃ s, r.get name = .ok s) ∨ r.get name = .error (.scannerNotFound name) ∨
    r.get name = .error (.scannerNotAvailable name)
  grouped : (Category.all.flatMap r.ofCategory).Perm r.available
  inGroup : ∀ c s, s ∈ r.ofCategory c ↔ s ∈ r.available ∧ s.category = c
  /-- The table has the groups that are not empty, in the order of the categories. -/
  table : ∀ c infos, (c,infos) ∈ r.byCategory ↔ infos = (r.ofCategory c).map Scanner.info ∧ infos ≠ []
  tableOrder : (r.byCategory.map (·.1)).Sublist Category.all

lemma coherent (r : Registry) : r.Coherent where
  sorted := r.registered_sorted
  size := r.registered_perm.length_eq.symm
  listed := rfl
  got name s := by
    rw [get_eq_ok_iff,mem_available]
    tauto
  notFound name := by
    have names : r.names.Perm (r.registered.map (·.name)) := (r.registered_perm.map _).symm
    rw [← names.mem_iff]
    obtain ⟨missing,hg⟩ | ⟨s,hs,rfl,⟨_,hg⟩ | ⟨_,hg⟩⟩ := r.get_cases name
    · simp [hg,missing]
    · have taken : s.name ∈ r.names := List.mem_map_of_mem hs
      simp [hg,taken]
    · have taken : s.name ∈ r.names := List.mem_map_of_mem hs
      simp [hg,taken]
  notAvailable name := by
    simp only [mem_registered]
    have same {s t : Scanner} (hs : s ∈ r.scanners) (ht : t ∈ r.scanners) (hn : t.name = s.name) : t = s :=
      List.inj_on_of_nodup_map r.nodup ht hs hn
    obtain ⟨missing,hg⟩ | ⟨s,hs,rfl,⟨ha,hg⟩ | ⟨ha,hg⟩⟩ := r.get_cases name
    · simp only [hg,Except.error.injEq,reduceCtorEq,false_iff]
      rintro ⟨t,ht,rfl,_⟩
      exact missing (List.mem_map_of_mem ht)
    · simp only [hg,reduceCtorEq,false_iff]
      rintro ⟨t,ht,hn,hu⟩
      rw [same hs ht hn,ha] at hu
      cases hu
    · simp only [hg,true_iff]
      exact ⟨s,hs,rfl,ha⟩
  answered name := by
    obtain ⟨_,hg⟩ | ⟨s,_,_,⟨_,hg⟩ | ⟨_,hg⟩⟩ := r.get_cases name
    · exact Or.inr (Or.inl hg)
    · exact Or.inl ⟨s,hg⟩
    · exact Or.inr (Or.inr hg)
  grouped := r.flatMap_ofCategory_perm
  inGroup _ _ := r.mem_ofCategory
  table _ _ := r.mem_byCategory
  tableOrder := r.byCategory_sublist

/-- Two registries answer alike. -/
structure Alike (r₁ r₂ : Registry) : Prop where
  size : r₁.size = r₂.size
  get : ∀ name, r₁.get name = r₂.get name
  registered : r₁.registered = r₂.registered
  available : r₁.available = r₂.available
  ofCategory : ∀ c, r₁.ofCategory c = r₂.ofCategory c
  byCategory : r₁.byCategory = r₂.byCategory

/-- The answers depend on which scanners there are, and not on their order. -/
theorem alike_of_perm {r₁ r₂ : Registry} (h : r₁.scanners.Perm r₂.scanners) : r₁.Alike r₂ := by
  have registered : r₁.registered = r₂.registered := by
    refine List.Perm.eq_of_pairwise ?_ r₁.registered_sorted r₂.registered_sorted
      (r₁.registered_perm.trans (h.trans r₂.registered_perm.symm))
    intro a b _ _ hab hba
    exact absurd (lt_trans hab hba) (String.lt_irrefl _)
  have available : r₁.available = r₂.available := by unfold available; rw [registered]
  have ofCategory : ∀ c, r₁.ofCategory c = r₂.ofCategory c := fun c => by unfold ofCategory; rw [available]
  refine ⟨h.length_eq,?_,registered,available,ofCategory,?_⟩
  · intro name
    have find : r₁.find? name = r₂.find? name := by
      apply Option.ext
      intro s
      rw [find?_eq_some_iff,find?_eq_some_iff,h.mem_iff]
    unfold get
    rw [find]
  · unfold byCategory
    simp only [ofCategory]

/-- Calls with different names register every scanner that has a name. -/
theorem scanners_callAll (r : Registry) {calls : List Scanner} (distinct : (calls.map (·.name)).Nodup)
    (free : ∀ s ∈ calls, s.name ∉ r.names) :
    (r.callAll calls).scanners = r.scanners ++ calls.filter (·.name ≠ "") := by
  induction calls generalizing r with
  | nil => simp [callAll]
  | cons s calls ih =>
    rw [List.map_cons,List.nodup_cons] at distinct
    rw [List.forall_mem_cons] at free
    rw [callAll_cons]
    obtain ⟨unnamed,hr⟩ | ⟨_,taken,_⟩ | ⟨named,_,next,hr,hs⟩ := r.register_cases s
    · rw [call_of_error hr,ih r distinct.2 free.2]
      simp [unnamed]
    · exact absurd taken free.1
    · have freeNext : ∀ t ∈ calls, t.name ∉ next.names := by
        intro t ht taken
        unfold names at taken
        rw [hs,List.map_append,List.mem_append] at taken
        obtain taken | same := taken
        · exact free.2 t ht taken
        · have hn : t.name = s.name := by simpa using same
          exact distinct.1 (List.mem_map.mpr ⟨t,ht,hn⟩)
      rw [call_of_ok hr,ih next distinct.2 freeNext,hs]
      simp [named]

/-- What registering some scanners together comes to: those in front of the first whose name is taken are
registered, and that one is refused. -/
structure RegistersFront (r : Registry) (scanners : List Scanner) (next : Registry) (outcome : Except ScanError Unit)
    (front rest : List Scanner) : Prop where
  split : scanners = front ++ rest
  free : ∀ s ∈ front, s.name ∉ r.names
  registered : next.scanners = r.scanners ++ front
  outcome : (rest = [] ∧ outcome = .ok ()) ∨
    ∃ s later, rest = s :: later ∧ s.name ∈ r.names ∧ outcome = .error (.scannerAlreadyExists s.name)

lemma registerAll_front (r : Registry) {scanners : List Scanner} (distinct : (scanners.map (·.name)).Nodup)
    (named : ∀ s ∈ scanners, s.name ≠ "") :
    ∃ front rest, r.RegistersFront scanners (r.registerAll scanners).1 (r.registerAll scanners).2 front rest := by
  induction scanners generalizing r with
  | nil => exact ⟨[],[],rfl,by simp,by simp [registerAll],Or.inl ⟨rfl,rfl⟩⟩
  | cons s scanners ih =>
    rw [List.map_cons,List.nodup_cons] at distinct
    rw [List.forall_mem_cons] at named
    obtain ⟨unnamed,_⟩ | ⟨_,taken,hr⟩ | ⟨_,free,next,hr,hs⟩ := r.register_cases s
    · exact absurd unnamed named.1
    · unfold registerAll
      simp only [hr]
      exact ⟨[],s :: scanners,rfl,by simp,by simp,Or.inr ⟨s,scanners,rfl,taken,rfl⟩⟩
    · have names : next.names = r.names ++ [s.name] := by simp [Registry.names,hs]
      obtain ⟨front,rest,rfl,freeNext,registered,outcome⟩ := ih next distinct.2 named.2
      unfold registerAll
      simp only [hr]
      refine ⟨s :: front,rest,rfl,?_,by rw [registered,hs]; simp,?_⟩
      · intro t ht
        obtain rfl | ht := List.mem_cons.mp ht
        · exact free
        · intro taken
          exact freeNext t ht (by rw [names]; exact List.mem_append_left _ taken)
      · obtain through | ⟨t,later,rfl,taken,refused⟩ := outcome
        · exact Or.inl through
        · refine Or.inr ⟨t,later,rfl,?_,refused⟩
          rw [names,List.mem_append,List.mem_singleton] at taken
          obtain taken | same := taken
          · exact taken
          · exact absurd (List.mem_map.mpr ⟨t,by simp,same⟩) distinct.1

/-- What stands under a name after some calls is what the first of them brought. -/
theorem mem_registered_after {calls : List Scanner} {s : Scanner} :
    s ∈ (after calls).registered ↔ s.name ≠ "" ∧ calls.find? (·.name == s.name) = some s := by
  rw [mem_registered]
  have found : s ∈ (after calls).scanners ↔ (after calls).find? s.name = some s := by simp [find?_eq_some_iff]
  rw [found,find?_after]
  by_cases unnamed : s.name = ""
  · simp [unnamed]
  · simp [unnamed]

/-- There are as many scanners as there are different names, not counting the empty one. -/
theorem size_after (calls : List Scanner) :
    (after calls).size = ((calls.map (·.name)).filter (· ≠ "")).dedup.length := by
  have names : (after calls).names.Perm ((calls.map (·.name)).filter (· ≠ "")).dedup := by
    refine (List.perm_ext_iff_of_nodup (after calls).nodup (List.nodup_dedup _)).mpr ?_
    intro name
    change name ∈ (after calls).names ↔ _
    rw [mem_names_after]
    simp [and_comm]
  rw [← names.length_eq]
  simp [Registry.names,size]

end Registry

/-- The bundled tools have names, and no two the same. -/
theorem Adapter.names_scanners (paths : ToolPaths) (isProgram : String → Bool) :
    (scanners paths isProgram).map (·.name) = all.map Adapter.name := by
  unfold scanners
  rw [List.map_map]
  rfl

/-- The laws of registration. A call is refused for an empty name and for a name that an earlier call registered,
and for nothing else; what is refused leaves no trace, and the first scanner under a name stays. After any calls
the answers of the registry fit together, with one scanner for each name but the empty one. Calls with different
names may come in any order. The bundled tools, added to any registry, are registered up to the first whose name
is taken. -/
theorem registration_laws :
    (∀ earlier s,
      ((Registry.after earlier).register s = .error (.invalidConfig "scanner name must not be empty") ↔
        s.name = "") ∧
      ((Registry.after earlier).register s = .error (.scannerAlreadyExists s.name) ↔
        Registry.Taken earlier s.name) ∧
      ∀ error, (Registry.after earlier).register s = .error error →
        error = .invalidConfig "scanner name must not be empty" ∨ error = .scannerAlreadyExists s.name) ∧
    (∀ earlier s later error, (Registry.after earlier).register s = .error error →
      Registry.after (earlier ++ s :: later) = Registry.after (earlier ++ later)) ∧
    (∀ earlier s later next, (Registry.after earlier).register s = .ok next →
      s ∈ (Registry.after (earlier ++ s :: later)).registered) ∧
    (∀ calls, (Registry.after calls).Coherent ∧
      (Registry.after calls).size = ((calls.map (·.name)).filter (· ≠ "")).dedup.length ∧
      ∀ s, s ∈ (Registry.after calls).registered ↔
        s.name ≠ "" ∧ calls.find? (·.name == s.name) = some s) ∧
    (∀ calls reordered : List Scanner, calls.Perm reordered → (calls.map (·.name)).Nodup →
      (Registry.after calls).Alike (Registry.after reordered)) ∧
    ∀ (r : Registry) paths isProgram, ∃ front rest, r.RegistersFront (Adapter.scanners paths isProgram)
      (r.registerAll (Adapter.scanners paths isProgram)).1 (r.registerAll (Adapter.scanners paths isProgram)).2
      front rest := by
  refine ⟨?_,?_,?_,?_,?_,?_⟩
  · intro earlier s
    rw [Registry.taken_iff_mem_names]
    obtain ⟨unnamed,hr⟩ | ⟨named,taken,hr⟩ | ⟨named,free,next,hr,_⟩ := (Registry.after earlier).register_cases s
    · have free : "" ∉ (Registry.after earlier).names := fun h => (Registry.mem_names_after.mp h).1 rfl
      simp [hr,unnamed,free]
    · simp [hr,named,taken]
    · simp [hr,named,free]
  · intro earlier s later error refused
    unfold Registry.after at *
    rw [Registry.callAll_append,Registry.callAll_append,Registry.callAll_cons,Registry.call_of_error refused]
  · intro earlier s later next registered
    rw [Registry.mem_registered]
    unfold Registry.after at *
    rw [Registry.callAll_append,Registry.callAll_cons,Registry.call_of_ok registered]
    exact Registry.mem_callAll later (by rw [Registry.scanners_of_register registered]; simp)
  · intro calls
    exact ⟨(Registry.after calls).coherent,Registry.size_after calls,fun s => Registry.mem_registered_after⟩
  · intro calls reordered same distinct
    apply Registry.alike_of_perm
    have first := Registry.empty.scanners_callAll distinct fun s _ h => by cases h
    have second := Registry.empty.scanners_callAll ((same.map _).nodup_iff.mp distinct) fun s _ h => by cases h
    unfold Registry.after
    rw [first,second]
    exact (same.filter _).append_left _
  · intro r paths isProgram
    have names := Adapter.names_scanners paths isProgram
    refine r.registerAll_front (by rw [names]; decide) ?_
    intro s hs unnamed
    have listed : s.name ∈ (Adapter.scanners paths isProgram).map (·.name) := List.mem_map_of_mem hs
    rw [names,unnamed] at listed
    exact absurd listed (by decide)

/-- A call under a name that is taken, between two that are not, and the bundled tools after a scanner under the
name of one of them. -/
theorem registration_laws_dns :
    ∃ first second other : Scanner, first.name = "dns" ∧ second.name = "dns" ∧ other.name = "whois" ∧
      first.category ≠ second.category ∧
      (Registry.after [first]).register second = .error (.scannerAlreadyExists "dns") ∧
      Registry.after [first,second,other] = Registry.after [first,other] ∧
      first ∈ (Registry.after [first,second,other]).registered ∧
      (Registry.after [first,second,other]).size = 2 ∧
      (Registry.after [first,other]).Alike (Registry.after [other,first]) ∧
      ∃ next front rest, (Registry.after [Scanner.doing "httpx" .webTech .crash]).RegistersFront
        (Adapter.scanners ⟨.empty⟩ fun _ => true) next (.error (.scannerAlreadyExists "httpx")) front rest := by
  obtain ⟨refusals,traceless,stays,views,orders,defaults⟩ := registration_laws
  have refused : (Registry.after [.doing "dns" .subdomain .crash]).register (.doing "dns" .port .crash) =
      .error (.scannerAlreadyExists "dns") :=
    (refusals [.doing "dns" .subdomain .crash] (.doing "dns" .port .crash)).2.1.mpr
      ⟨[],.doing "dns" .subdomain .crash,[],rfl,rfl,_,rfl⟩
  obtain ⟨_,size,_⟩ := views [.doing "dns" .subdomain .crash,.doing "dns" .port .crash,.doing "whois" .port .crash]
  obtain ⟨front,rest,registers⟩ :=
    defaults (Registry.after [Scanner.doing "httpx" .webTech .crash]) ⟨.empty⟩ fun _ => true
  refine ⟨.doing "dns" .subdomain .crash,.doing "dns" .port .crash,.doing "whois" .port .crash,rfl,rfl,rfl,nofun,
    refused,?_,?_,?_,?_,_,front,rest,registers⟩
  · exact traceless [.doing "dns" .subdomain .crash] (.doing "dns" .port .crash) [.doing "whois" .port .crash] _ refused
  · exact stays [] (.doing "dns" .subdomain .crash) _ _ rfl
  · rw [size]
    decide
  · exact orders _ _ (List.Perm.swap ..) (by decide)

end Recon
