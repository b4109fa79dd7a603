import Recon.Proofs.Text.Lowercase
import Recon.Tool.Address

/-! The host in a target. It holds no slash and is in lower case; but blanks are dropped around the target only, so
those right after the scheme and right before the path stay with the host. -/
namespace Recon.Target

open Text

/-- The schemes that are dropped. -/
def schemes : List (List Char) := [['h','t','t','p',':','/','/'],['h','t','t','p','s',':','/','/']]

/-- A target as its host is taken out of it: in lower case and without blanks around it. -/
def spelling (target : String) : List Char := lower (trim target.toList)

section Scheme

variable {cs rest : List Char}

lemma dropScheme_append {scheme : List Char} (listed : scheme ∈ schemes) (rest : List Char) :
    dropScheme (scheme ++ rest) = rest := by
  simp only [schemes,List.mem_cons,List.not_mem_nil,or_false] at listed
  obtain rfl | rfl := listed
  · rfl
  · rfl

lemma dropScheme_eq_self (bare : ∀ scheme ∈ schemes, ¬ scheme <+: cs) : dropScheme cs = cs := by
  have none (scheme : List Char) (listed : scheme ∈ schemes) : after? scheme cs = none := by
    rw [Option.eq_none_iff_forall_not_mem]
    intro rest found
    exact bare scheme listed ⟨rest,(after?_eq_some_iff.mp found).symm⟩
  simp only [schemes,List.forall_mem_cons] at none
  rw [dropScheme,none.1,none.2.1]
  rfl

/-- Without a slash there is no scheme. -/
theorem dropScheme_of_not_mem (h : '/' ∉ cs) : dropScheme cs = cs := by
  refine dropScheme_eq_self fun scheme listed lead => h (lead.subset ?_)
  have slash : ∀ scheme ∈ schemes, '/' ∈ scheme := by decide
  exact slash scheme listed

lemma dropScheme_suffix (cs : List Char) : dropScheme cs <:+ cs := by
  by_cases bare : ∀ scheme ∈ schemes, ¬ scheme <+: cs
  · simp only [dropScheme_eq_self bare,List.suffix_refl]
  · push Not at bare
    obtain ⟨scheme,listed,rest,rfl⟩ := bare
    rw [dropScheme_append listed]
    exact List.suffix_append scheme rest

/-- The character after the scheme, or the first one of all without a scheme. -/
theorem head?_dropScheme_iff {c : Char} : (dropScheme cs).head? = some c ↔
    (∃ scheme ∈ schemes, scheme ++ [c] <+: cs) ∨ (∀ scheme ∈ schemes, ¬ scheme <+: cs) ∧ cs.head? = some c := by
  by_cases bare : ∀ scheme ∈ schemes, ¬ scheme <+: cs
  · rw [dropScheme_eq_self bare,or_iff_right,and_iff_right bare]
    rintro ⟨scheme,listed,lead⟩
    exact bare scheme listed ((List.prefix_append scheme [c]).trans lead)
  · rw [or_iff_left fun other => bare other.1]
    push Not at bare
    obtain ⟨scheme,listed,rest,rfl⟩ := bare
    rw [dropScheme_append listed,← List.singleton_prefix_iff_head?_eq_some]
    constructor
    · intro lead
      exact ⟨scheme,listed,(List.prefix_append_right_inj scheme).mpr lead⟩
    · rintro ⟨other,listed',more,whole⟩
      rw [List.append_assoc] at whole
      have dropped := congrArg dropScheme whole
      rw [dropScheme_append listed',dropScheme_append listed] at dropped
      exact ⟨more,dropped⟩

end Scheme

section Host

lemma toList_host (target : String) :
    (host target).toList = (dropScheme (spelling target)).takeWhile (· != '/') := String.toList_ofList

lemma ne_slash_of_isBlank {c : Char} (blank : isBlank c = true) : c ≠ '/' := by
  rintro rfl
  exact absurd blank (by decide)

/-- Without a slash nothing is cut off as path. -/
theorem bne_slash {cs : List Char} (h : '/' ∉ cs) : ∀ c ∈ cs, (c != '/') = true := fun _ inside =>
  bne_iff_ne.mpr fun slash => h (slash ▸ inside)

lemma not_mem_host (target : String) : '/' ∉ (host target).toList := by
  rw [toList_host]
  intro inside
  have := List.mem_takeWhile_imp inside
  simp at this

lemma isLower_of_mem_host {target : String} {c : Char} (h : c ∈ (host target).toList) : IsLower c := by
  rw [toList_host] at h
  exact isLower_of_mem_lower ((dropScheme_suffix _).subset ((List.takeWhile_prefix _).subset h))

/-- What is taken out of a host is that host without the blanks around it. -/
theorem host_host (target : String) : host (host target) = String.ofList (trim (host target).toList) := by
  have within : trim (host target).toList <:+: (host target).toList := trim_isInfix _
  have settled : spelling (host target) = trim (host target).toList :=
    lower_eq_self fun c inside => isLower_of_mem_host (within.subset inside)
  have whole : '/' ∉ trim (host target).toList := fun inside => not_mem_host target (within.subset inside)
  apply String.toList_injective
  rw [toList_host,settled,dropScheme_of_not_mem whole,String.toList_ofList,List.takeWhile_eq_self_iff]
  exact bne_slash whole

lemma host_host_eq_iff (target : String) : host (host target) = host target ↔ Trimmed (host target).toList := by
  rw [host_host,← trim_eq_self_iff,← String.toList_inj,String.toList_ofList]

/-- A blank stands right after the scheme. -/
def LooseScheme (target : String) : Prop :=
  ∃ scheme ∈ schemes, ∃ c, isBlank c = true ∧ scheme ++ [c] <+: spelling target

/-- A blank stands right before the slash at which the path begins. -/
def LoosePath (target : String) : Prop := ∃ front c path, isBlank c = true ∧ '/' ∉ front ∧
  dropScheme (spelling target) = front ++ c :: '/' :: path

lemma trimmed_spelling (target : String) : Trimmed (spelling target) := (trimmed_trim target.toList).lower

/-- A character other than a slash is the first of the host if it is the first after the scheme. -/
theorem head?_host_iff {target : String} {c : Char} (other : c ≠ '/') :
    (host target).toList.head? = some c ↔ (dropScheme (spelling target)).head? = some c := by
  rw [toList_host,List.head?_takeWhile,Option.filter_eq_some_iff]
  simp [other]

lemma blank_first_iff (target : String) :
    (∃ c, (host target).toList.head? = some c ∧ isBlank c = true) ↔ LooseScheme target := by
  constructor
  · rintro ⟨c,lead,blank⟩
    rw [head?_host_iff (ne_slash_of_isBlank blank)] at lead
    obtain ⟨scheme,listed,follows⟩ | ⟨-,lead⟩ := head?_dropScheme_iff.mp lead
    · exact ⟨scheme,listed,c,blank,follows⟩
    · exact absurd blank (by simp [(trimmed_spelling target).first c lead])
  · rintro ⟨scheme,listed,c,blank,follows⟩
    exact ⟨c,(head?_host_iff (ne_slash_of_isBlank blank)).mpr (head?_dropScheme_iff.mpr (.inl ⟨scheme,listed,follows⟩)),
      blank⟩

lemma blank_last_iff (target : String) :
    (∃ c, (host target).toList.getLast? = some c ∧ isBlank c = true) ↔ LoosePath target := by
  have whole := List.takeWhile_append_dropWhile (p := (· != '/')) (l := dropScheme (spelling target))
  rw [← toList_host] at whole
  constructor
  · rintro ⟨c,final,blank⟩
    obtain ⟨front,split⟩ := List.getLast?_eq_some_iff.mp final
    have unsplit : '/' ∉ front := fun inside => not_mem_host target (split ▸ List.mem_append_left _ inside)
    cases path : (dropScheme (spelling target)).dropWhile (· != '/') with
    | nil =>
      -- without a path the host ends where the target does, and that is trimmed
      obtain ⟨before,rest⟩ := dropScheme_suffix (spelling target)
      rw [path,List.append_nil] at whole
      rw [← whole,split,← List.append_assoc] at rest
      have last := (trimmed_spelling target).last c (by rw [← rest,List.getLast?_concat])
      exact absurd blank (by simp [last])
    | cons d path' =>
      have stops := List.head?_dropWhile_not (· != '/') (dropScheme (spelling target))
      rw [path] at stops
      obtain rfl : d = '/' := by simpa using stops
      refine ⟨front,c,path',blank,unsplit,?_⟩
      rw [← whole,path,split,List.append_assoc,List.singleton_append]
  · rintro ⟨front,c,path,blank,unsplit,split⟩
    have kept : '/' ∉ front ++ [c] := by
      simpa [unsplit] using (ne_slash_of_isBlank blank).symm
    refine ⟨c,?_,blank⟩
    have split : dropScheme (spelling target) = (front ++ [c]) ++ '/' :: path := by
      rw [split,List.append_assoc,List.singleton_append]
    rw [toList_host,split,List.takeWhile_append_of_pos (bne_slash kept),List.takeWhile_cons_of_neg (by decide),
      List.append_nil,List.getLast?_concat]

lemma trimmed_host_iff (target : String) :
    Trimmed (host target).toList ↔ ¬ LooseScheme target ∧ ¬ LoosePath target := by
  rw [← blank_first_iff,← blank_last_iff]
  simp only [not_exists,not_and,Bool.not_eq_true]
  exact ⟨fun h => ⟨h.first,h.last⟩,fun h => ⟨h.1,h.2⟩⟩

end Host

/-- A host has no slash. It begins with a blank just if one follows the scheme and ends with a blank just if one precedes
the path; then the host of that host is another one, without those blanks, and with this it ends. -/
theorem host_bare_iff (target : String) :
    '/' ∉ (host target).toList ∧
    ((∃ c, (host target).toList.head? = some c ∧ isBlank c = true) ↔ LooseScheme target) ∧
    ((∃ c, (host target).toList.getLast? = some c ∧ isBlank c = true) ↔ LoosePath target) ∧
    host (host target) = String.ofList (trim (host target).toList) ∧
    (host (host target) = host target ↔ ¬ LooseScheme target ∧ ¬ LoosePath target) ∧
    host (host (host target)) = host (host target) := by
  have again : Trimmed (host (host target)).toList := by
    rw [host_host,String.toList_ofList]
    exact trimmed_trim _
  exact ⟨not_mem_host target,blank_first_iff target,blank_last_iff target,host_host target,
    (host_host_eq_iff target).trans (trimmed_host_iff target),(host_host_eq_iff (host target)).mpr again⟩

/-- Blanks inside the target are left at the ends of its host. -/
theorem host_keeps_blanks : host "http:// example.com" = " example.com" ∧ host " example.com" = "example.com" ∧
    host "example.com /login" = "example.com " ∧ ¬ Trimmed (host "example.com /login").toList := by
  refine ⟨rfl,rfl,rfl,fun h => ?_⟩
  have last : isBlank ' ' = false := h.last ' ' rfl
  exact absurd last (by decide)

end Recon.Target
