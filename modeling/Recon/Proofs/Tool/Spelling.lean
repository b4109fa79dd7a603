import Recon.Proofs.Text.Words
import Recon.Proofs.Tool.Host
import Recon.Proofs.Tool.LetterCase
import Recon.Tool.Adapter

/-! The spellings of a host as a target. Blanks around it, a scheme, a path and the case of letters do not matter: the
host in the target is the same, and of the target the tools see no more than that, but for the text in an error. -/
namespace Recon

open Text

namespace Target

/-- A host that can be spelled in any way: a scheme without its slashes is none. -/
structure BareHost (name : String) : Prop where
  filled : name ≠ ""
  ascii : ∀ c ∈ name.toList, c.toNat < 128
  whole : '/' ∉ name.toList
  trimmed : Trimmed name.toList
  schemeless : lower name.toList ∉ ["http:".toList,"https:".toList]

/-- A way to spell a host. -/
structure Spelling (name : String) where
  front : List Char
  scheme : List Char
  letters : String
  path : List Char
  back : List Char
  front_blank : ∀ c ∈ front, isBlank c = true
  scheme_known : scheme.map Char.toLower ∈ [] :: schemes
  same_letters : SameLetters letters name
  path_apart : path = [] ∨ path.head? = some '/'
  back_blank : ∀ c ∈ back, isBlank c = true

namespace Spelling

variable {name : String} (s : Spelling name)

def text : String := String.ofList (s.front ++ (s.scheme ++ s.letters.toList ++ (s.path ++ s.back)))

lemma ascii_scheme {c : Char} (inside : c ∈ s.scheme) : c.toNat < 128 ∧ isBlank c = false := by
  have plain : ∀ known ∈ [] :: schemes, known.all (fun c => decide (c.toNat < 128 ∧ isBlank c = false)) = true := by
    decide
  have low := forall_mem_of_all (plain _ s.scheme_known) c.toLower (List.mem_map_of_mem inside)
  have ascii := ascii_of_toLower low.1
  exact ⟨ascii,isBlank_toLower ascii ▸ low.2⟩

/-- Of the path and the blanks behind it at most a path is left. -/
theorem trimEnd_path : trimEnd (s.path ++ s.back) = [] ∨ (trimEnd (s.path ++ s.back)).head? = some '/' := by
  obtain none | slash := s.path_apart
  · rw [none,List.nil_append]
    exact .inl (trimEnd_eq_nil s.back_blank)
  · obtain ⟨path,spelled⟩ := List.head?_eq_some_iff.mp slash
    have visible : ∀ c, ['/'].getLast? = some c → isBlank c = false := fun c last => Option.some.inj last ▸ rfl
    rw [spelled,List.cons_append,← List.singleton_append,trimEnd_append visible]
    exact .inr rfl

lemma lowerAfter_path (before : List Char) {path : List Char} (apart : path = [] ∨ path.head? = some '/') :
    lowerAfter before path = [] ∨ (lowerAfter before path).head? = some '/' := by
  obtain rfl | slash := apart
  · exact .inl rfl
  · obtain ⟨path,rfl⟩ := List.head?_eq_some_iff.mp slash
    exact .inr rfl

section Host

variable {s} (bare : BareHost name)

include bare

lemma ascii_letters {c : Char} (inside : c ∈ s.letters.toList) : c.toNat < 128 := by
  have low : c.toLower ∈ name.toList.map Char.toLower := s.same_letters ▸ List.mem_map_of_mem inside
  obtain ⟨d,own,same⟩ := List.mem_map.mp low
  exact ascii_of_toLower (same ▸ ascii_toLower (bare.ascii d own))

lemma trimmed_letters : Trimmed s.letters.toList := by
  have low : Trimmed (s.letters.toList.map Char.toLower) := by
    rw [s.same_letters,← lower_of_ascii bare.ascii]
    exact bare.trimmed.lower
  refine ⟨fun c first => ?_,fun c last => ?_⟩
  · rw [← isBlank_toLower (ascii_letters bare (List.mem_of_head? first))]
    exact low.first _ (by rw [List.head?_map,first,Option.map_some])
  · rw [← isBlank_toLower (ascii_letters bare (List.mem_of_getLast? last))]
    exact low.last _ (by rw [List.getLast?_map,last,Option.map_some])

lemma letters_ne_nil : s.letters.toList ≠ [] := by
  intro none
  have same : s.letters.toList.map Char.toLower = name.toList.map Char.toLower := s.same_letters
  rw [none,List.map_nil,eq_comm,List.map_eq_nil_iff,String.toList_eq_nil_iff] at same
  exact bare.filled same

lemma trim_text : trim s.text.toList = s.scheme ++ s.letters.toList ++ trimEnd (s.path ++ s.back) := by
  have trimmed : Trimmed (s.scheme ++ s.letters.toList) :=
    (trimmed_letters bare).append_left (fun c inside => (s.ascii_scheme inside).2) (letters_ne_nil bare)
  have filled : s.scheme ++ s.letters.toList ≠ [] := List.append_ne_nil_of_right_ne_nil _ (letters_ne_nil bare)
  rw [text,String.toList_ofList,trim_around s.front_blank trimmed filled]

/-- Without the blanks around it and in lower case a spelling is a scheme, the host in lower case and a path. -/
theorem exists_path : ∃ path, (path = [] ∨ path.head? = some '/') ∧
    spelling s.text = s.scheme.map Char.toLower ++ (lower name.toList ++ path) := by
  have ascii : ∀ c ∈ s.scheme ++ s.letters.toList, c.toNat < 128 := List.forall_mem_append.mpr
    ⟨fun c inside => (s.ascii_scheme inside).1,fun c inside => ascii_letters bare inside⟩
  have same : s.letters.toList.map Char.toLower = name.toList.map Char.toLower := s.same_letters
  rw [spelling,trim_text bare,lower,lowerAfter_append_of_ascii ascii,List.map_append,same,← lower_of_ascii bare.ascii,
    List.append_assoc]
  exact ⟨_,lowerAfter_path _ s.trimEnd_path,rfl⟩

/-- The host ends where the path begins. -/
theorem takeWhile_lower {path : List Char} (apart : path = [] ∨ path.head? = some '/') :
    (lower name.toList ++ path).takeWhile (· != '/') = lower name.toList := by
  have whole : '/' ∉ lower name.toList := by
    rw [lower_of_ascii bare.ascii]
    intro inside
    obtain ⟨c,own,slash⟩ := List.mem_map.mp inside
    have same : c = '/' := forall_ascii (p := fun c => c.toLower = '/' → c = '/') (by decide) (bare.ascii c own) slash
    exact bare.whole (same ▸ own)
  obtain rfl | slash := apart
  · rw [List.append_nil,List.takeWhile_eq_self_iff]
    exact bne_slash whole
  · obtain ⟨path,rfl⟩ := List.head?_eq_some_iff.mp slash
    exact takeWhile_append_cons (bne_slash whole) (by decide) path

/-- Whatever the spelling, the host in a target is the same. -/
theorem toList_host_text (s : Spelling name) : (host s.text).toList = lower name.toList := by
  obtain ⟨path,apart,spelled⟩ := s.exists_path bare
  have dropped : dropScheme (spelling s.text) = lower name.toList ++ path := by
    rw [spelled]
    obtain none | known := List.mem_cons.mp s.scheme_known
    · rw [none,List.nil_append]
      refine dropScheme_eq_self fun scheme listed ⟨rest,lead⟩ => bare.schemeless ?_
      -- a scheme that began there would end within the host
      have colon : ∀ scheme ∈ schemes, (scheme ++ rest).takeWhile (· != '/') ∈ ["http:".toList,"https:".toList] := by
        simp [schemes]
      rw [← takeWhile_lower bare apart,← lead]
      exact colon scheme listed
    · exact dropScheme_append known _
  rw [toList_host,dropped,takeWhile_lower bare apart]

end Host

end Spelling

/-- Targets with the same host, neither or both of them blank. -/
structure Alike (t t' : String) : Prop where
  host : host t = host t'
  blank : (trim t.toList).isEmpty = (trim t'.toList).isEmpty

lemma Spelling.alike {name : String} (bare : BareHost name) (s s' : Spelling name) : Alike s.text s'.text where
  host := String.toList_injective ((toList_host_text bare s).trans (toList_host_text bare s').symm)
  blank := by
    have filled (s : Spelling name) : (trim s.text.toList).isEmpty = false := by
      rw [trim_text bare]
      simp [letters_ne_nil bare]
    rw [filled,filled]

end Target

/-- The configuration with another target. -/
def ScanConfig.aimedAt (c : ScanConfig) (target : String) : ScanConfig := { c with target := target }

/-- An error with another target in its text. -/
def ScanError.naming (target : String) : ScanError → ScanError
  | .invalidTarget _ => .invalidTarget target
  | e => e

/-- A tool that sees of a target no more than its host, and repeats its text in errors. -/
structure Adapter.SeesHost (a : Adapter) : Prop where
  check : ∀ {t t' : String}, Target.Alike t t' → ∀ c : ScanConfig,
    a.check (c.aimedAt t') = (a.check (c.aimedAt t)).mapError (·.naming t')
  scan : ∀ {t t' : String}, Target.Alike t t' → ∀ (program : String) (c : ScanConfig),
    a.scan program (c.aimedAt t') = a.scan program (c.aimedAt t)

section Tools

variable {t t' : String} (alike : Target.Alike t t') (c : ScanConfig)

include alike

lemma Target.Alike.urls : Target.urls t' = Target.urls t := by rw [Target.urls,Target.urls,alike.host]

lemma ScanConfig.checkBase_aimedAt :
    (c.aimedAt t').checkBase = (c.aimedAt t).checkBase.mapError (·.naming t') := by
  simp only [checkBase,aimedAt,alike.blank,apply_ite (Except.mapError _)]
  rfl

lemma ScanConfig.checkTargets_aimedAt (targets : List String) :
    (c.aimedAt t').checkTargets targets = ((c.aimedAt t).checkTargets targets).mapError (·.naming t') := by
  rw [checkTargets,checkTargets,checkBase_aimedAt alike]
  cases (c.aimedAt t).checkBase with
  | error e => rfl
  | ok =>
    simp only [apply_ite (Except.mapError _)]
    rfl

end Tools

lemma Subfinder.seesHost : Adapter.SeesHost ⟨tool,check,scan⟩ where
  check {t t'} alike c := by
    simp only [check,ScanConfig.checkBase_aimedAt alike]
    cases (c.aimedAt t).checkBase with
    | error e => rfl
    | ok =>
      change (if Target.isDomain (Target.host t') = true then _ else _) =
        Except.mapError _ (if Target.isDomain (Target.host t) = true then _ else _)
      rw [alike.host,apply_ite (Except.mapError _)]
      rfl
  scan alike program c := by
    simp only [scan,ScanConfig.aimedAt,alike.host]
    rfl

lemma Nmap.seesHost : Adapter.SeesHost ⟨tool,check,scan⟩ where
  check {t t'} alike c := by
    simp only [check,ScanConfig.checkBase_aimedAt alike]
    cases (c.aimedAt t).checkBase with
    | error e => rfl
    | ok =>
      change (if Target.host t' = "" then _ else _) = Except.mapError _ (if Target.host t = "" then _ else _)
      rw [alike.host,apply_ite (Except.mapError _)]
      rfl
  scan alike program c := by
    simp only [scan,ScanConfig.aimedAt,alike.host]
    rfl

namespace Httpx

lemma targets_aimedAt {t t' : String} (alike : Target.Alike t t') (c : ScanConfig) :
    targets (c.aimedAt t') = targets (c.aimedAt t) := by
  simp only [targets,ScanConfig.aimedAt,alike.urls]
  rfl

lemma seesHost : Adapter.SeesHost ⟨tool,check,scan⟩ where
  check alike c := by simp only [check,targets_aimedAt alike,ScanConfig.checkTargets_aimedAt alike]
  scan alike program c := by
    simp only [scan,targets_aimedAt alike]
    rfl

end Httpx

namespace Gobuster

lemma targets_aimedAt {t t' : String} (alike : Target.Alike t t') (c : ScanConfig) :
    targets (c.aimedAt t') = targets (c.aimedAt t) := by
  simp only [targets,ScanConfig.aimedAt,alike.urls]
  rfl

lemma scanAll_aimedAt (t t' program : String) (c : ScanConfig) (found : List WebPath) (urls : List String) :
    scanAll program (c.aimedAt t') found urls = scanAll program (c.aimedAt t) found urls := by
  induction urls generalizing found with
  | nil => rfl
  | cons url urls ih =>
    simp only [scanAll,ih]
    rfl

lemma seesHost : Adapter.SeesHost ⟨tool,check,scan⟩ where
  check alike c := by simp only [check,targets_aimedAt alike,ScanConfig.checkTargets_aimedAt alike]
  scan {t t'} alike program c := by
    simp only [scan,targets_aimedAt alike,scanAll_aimedAt t t']

end Gobuster

namespace Nuclei

lemma targets_aimedAt {t t' : String} (alike : Target.Alike t t') (c : ScanConfig) :
    targets (c.aimedAt t') = targets (c.aimedAt t) := by
  simp only [targets,ScanConfig.aimedAt,alike.urls]
  rfl

lemma seesHost : Adapter.SeesHost ⟨tool,check,scan⟩ where
  check alike c := by simp only [check,targets_aimedAt alike,ScanConfig.checkTargets_aimedAt alike]
  scan alike program c := by
    simp only [scan,targets_aimedAt alike]
    rfl

end Nuclei

lemma Adapter.seesHost_of_mem {a : Adapter} (ha : a ∈ all) : a.SeesHost := by
  simp only [all,List.mem_cons,List.not_mem_nil,or_false] at ha
  obtain rfl | rfl | rfl | rfl | rfl := ha
  · exact Subfinder.seesHost
  · exact Nmap.seesHost
  · exact Httpx.seesHost
  · exact Gobuster.seesHost
  · exact Nuclei.seesHost

/-- However a host is spelled as a target, it is that host in lower case. So every tool decides alike on the spellings,
but for the target in the text of an error, and starts the same programs and reads their reports in the same way. -/
theorem spelling_immaterial {name : String} (bare : Target.BareHost name) (s : Target.Spelling name) :
    Target.host s.text = String.ofList (lower name.toList) ∧
    ∀ s' : Target.Spelling name, ∀ a ∈ Adapter.all, ∀ c : ScanConfig,
      a.check (c.aimedAt s'.text) = (a.check (c.aimedAt s.text)).mapError (·.naming s'.text) ∧
      ∀ program, a.scan program (c.aimedAt s'.text) = a.scan program (c.aimedAt s.text) := by
  refine ⟨?_,fun s' a ha c => ?_⟩
  · rw [← Target.Spelling.toList_host_text bare s,String.ofList_toList]
  · have alike := s.alike bare s'
    have seesHost := Adapter.seesHost_of_mem ha
    exact ⟨seesHost.check alike c,fun program => seesHost.scan alike program c⟩

/-- A page on a port, with the scheme in capitals and blanks around. -/
def Target.loginSpelling : Target.Spelling "Example.com:8080" where
  front := [' ']
  scheme := "HTTPS://".toList
  letters := "eXample.COM:8080"
  path := "/Login?\u00c9".toList
  back := ['\t']
  front_blank := forall_mem_of_all (by decide)
  scheme_known := by decide
  same_letters := by decide
  path_apart := .inr rfl
  back_blank := forall_mem_of_all (by decide)

/-- The host as it is. -/
def Target.plainSpelling : Target.Spelling "Example.com:8080" where
  front := []
  scheme := []
  letters := "Example.com:8080"
  path := []
  back := []
  front_blank := List.forall_mem_nil _
  scheme_known := List.mem_cons_self
  same_letters := rfl
  path_apart := .inl rfl
  back_blank := List.forall_mem_nil _

/-- A host with a port is no domain, and is refused as it was spelled; its ports are scanned either way. -/
theorem spelling_immaterial_login : Target.host " HTTPS://eXample.COM:8080/Login?\u00c9\t" = "example.com:8080" ∧
    Subfinder.check (.create 1 "Example.com:8080") =
      (Subfinder.check (.create 1 " HTTPS://eXample.COM:8080/Login?\u00c9\t")).mapError (·.naming "Example.com:8080") ∧
    Nmap.scan "nmap" (.create 1 "Example.com:8080") =
      Nmap.scan "nmap" (.create 1 " HTTPS://eXample.COM:8080/Login?\u00c9\t") := by
  have bare : Target.BareHost "Example.com:8080" :=
    ⟨by decide,forall_mem_of_all (by decide),by decide,trim_eq_self_iff.mp (by decide),by decide⟩
  have login : Target.loginSpelling.text = " HTTPS://eXample.COM:8080/Login?\u00c9\t" := by decide
  have plain : Target.plainSpelling.text = "Example.com:8080" := by decide
  obtain ⟨host,same⟩ := spelling_immaterial bare Target.loginSpelling
  rw [login] at host same
  have subfinder := same Target.plainSpelling ⟨_,Subfinder.check,_⟩ List.mem_cons_self (.create 1 "")
  have nmap := same Target.plainSpelling ⟨_,_,Nmap.scan⟩ (List.mem_cons_of_mem _ List.mem_cons_self) (.create 1 "")
  rw [plain] at subfinder nmap
  exact ⟨host,subfinder.1,nmap.2 "nmap"⟩

end Recon
