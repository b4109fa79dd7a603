/-! Texts by name, in the order in which the names came, each name once. Setting a name again keeps
its place and replaces its value. -/
namespace Recon

/-- The value beside the first entry called `key`. -/
def lookup? {α : Type} (key : String) : List (String × α) → Option α
  | [] => none
  | (k,v) :: entries => if k = key then some v else lookup? key entries

/-- Replaces the value of `key`, or adds it at the end. -/
def assign {α : Type} (key : String) (value : α) : List (String × α) → List (String × α)
  | [] => [(key,value)]
  | (k,v) :: entries => if k = key then (k,value) :: entries else (k,v) :: assign key value entries

theorem mem_keys_assign {α : Type} {k key : String} {value : α} {entries : List (String × α)} :
    k ∈ (assign key value entries).map (·.1) ↔ k = key ∨ k ∈ entries.map (·.1) := by
  induction entries with
  | nil => simp [assign]
  | cons e entries ih =>
    obtain ⟨k',v⟩ := e
    by_cases h : k' = key
    · simp only [assign,h,↓reduceIte,List.map_cons,List.mem_cons]
      grind
    · simp only [assign,h,↓reduceIte,List.map_cons,List.mem_cons,ih]
      grind

theorem nodup_keys_assign {α : Type} {key : String} {value : α} {entries : List (String × α)}
    (h : (entries.map (·.1)).Nodup) : ((assign key value entries).map (·.1)).Nodup := by
  induction entries with
  | nil => simp [assign]
  | cons e entries ih =>
    obtain ⟨k,v⟩ := e
    simp only [List.map_cons,List.nodup_cons] at h
    by_cases hk : k = key
    · simp [assign,hk] at h ⊢
      exact h
    · simp only [assign,hk,↓reduceIte,List.map_cons,List.nodup_cons,mem_keys_assign]
      exact ⟨by simp [h.1],ih h.2⟩

structure Dict (α : Type) where
  entries : List (String × α)
  nodup : (entries.map (·.1)).Nodup
deriving DecidableEq

namespace Dict

variable {α : Type}

def empty : Dict α := ⟨[],by simp⟩

instance : Inhabited (Dict α) := ⟨empty⟩

def get? (d : Dict α) (key : String) : Option α := lookup? key d.entries

def insert (d : Dict α) (key : String) (value : α) : Dict α :=
  ⟨assign key value d.entries,nodup_keys_assign d.nodup⟩

/-- Sets the entries in order, so the last of equal names counts. -/
def ofList (entries : List (String × α)) : Dict α :=
  entries.foldl (fun d (key,value) => d.insert key value) empty

def insertAll (d : Dict α) (entries : List (String × α)) : Dict α :=
  entries.foldl (fun d (key,value) => d.insert key value) d

@[simp] theorem get?_empty (key : String) : (empty : Dict α).get? key = none := rfl

theorem lookup?_assign (key key' : String) (value : α) (entries : List (String × α)) :
    lookup? key' (assign key value entries) = if key = key' then some value else lookup? key' entries := by
  induction entries with
  | nil => simp [assign,lookup?]
  | cons e entries ih =>
    obtain ⟨k,v⟩ := e
    by_cases hk : k = key
    · subst hk
      by_cases h : k = key' <;> simp [assign,lookup?,h]
    · by_cases h : k = key'
      · subst h
        simp [assign,lookup?,hk,Ne.symm hk]
      · simp [assign,lookup?,hk,h,ih]

@[simp] theorem get?_insert (d : Dict α) (key key' : String) (value : α) :
    (d.insert key value).get? key' = if key = key' then some value else d.get? key' :=
  lookup?_assign key key' value d.entries

end Dict
end Recon
