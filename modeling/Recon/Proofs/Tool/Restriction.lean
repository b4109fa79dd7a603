import Recon.Proofs.Text.Lines
import Recon.Proofs.Tool.Arguments
import Recon.Proofs.Tool.Targets

/-! What a search for weaknesses is restricted to. Its arguments are read as the program reads them, a value after each
flag that takes one. They select templates or severities, save for one case: an option with templates that lists none,
since the severities by default stand in for a missing option, not for an empty list. -/
namespace Recon.Nuclei

open Text

/-- The flags that take the argument after them. -/
def valued : List String := ["-timeout","-retries","-c","-rate-limit","-t","-s","-tags","-etags","-H","-u"]

/-- What flags are given, in order. The argument after such a flag is its value and no flag, whatever it looks like. -/
def given : List String → List (String × String)
  | [] | [_] => []
  | flag :: value :: rest => if flag ∈ valued then (flag,value) :: given rest else given (value :: rest)

/-- A template or a severity is selected. -/
def Restricted (args : List String) : Prop := ∃ setting ∈ given args, setting.1 = "-t" ∨ setting.1 = "-s"

instance (args : List String) : Decidable (Restricted args) := inferInstanceAs (Decidable (∃ setting ∈ _, _))

/-- The option with templates is set and lists none, and no severity is asked for. -/
structure Unselective (c : ScanConfig) : Prop where
  set : c.value "templates" ≠ ""
  empty : ∀ d ∈ (c.value "templates").toList, d = ',' ∨ isBlank d = true
  severity : c.value "severity" = ""

section Given

variable {flag : String}

lemma given_valued (takes : flag ∈ valued) (value : String) (rest : List String) :
    given (flag :: value :: rest) = (flag,value) :: given rest := by
  rw [given,if_pos takes]

lemma given_plain (takes : flag ∉ valued) (rest : List String) : given (flag :: rest) = given rest := by
  cases rest with
  | nil => rfl
  | cons value rest => rw [given,if_neg takes]

/-- What a switch gives its flag. -/
def settings : Switch → List (String × String)
  | .plain _ _ => []
  | .valued flag value => value.toList.map (flag,·)
  | .repeated flag values => values.map (flag,·)

/-- A switch is plain just if its flag takes no value. -/
def Fits : Switch → Prop
  | .plain flag _ => flag ∉ valued
  | .valued flag _ | .repeated flag _ => flag ∈ valued

lemma given_switch {s : Switch} (fits : Fits s) (rest : List String) :
    given (s.args ++ rest) = settings s ++ given rest := by
  cases s with
  | plain flag set =>
    cases set with
    | false => rfl
    | true => exact given_plain fits rest
  | valued flag value =>
    cases value with
    | none => rfl
    | some value => exact given_valued fits value rest
  | repeated flag values =>
    have takes : flag ∈ valued := fits
    induction values with
    | nil => rfl
    | cons value values ih => exact (given_valued takes value _).trans (congrArg _ (ih fits))

lemma given_switches {switches : List Switch} (fits : ∀ s ∈ switches, Fits s) :
    given (switches.flatMap Switch.args) = switches.flatMap settings := by
  induction switches with
  | nil => rfl
  | cons s switches ih =>
    rw [List.forall_mem_cons] at fits
    rw [List.flatMap_cons,List.flatMap_cons,given_switch fits.1,ih fits.2]

end Given

section Arguments

/-- The arguments that are the same in every run. -/
def fixed : List Switch :=
  [.plain "-jsonl" true,.plain "-silent" true,.valued "-timeout" (some "10"),.valued "-retries" (some "2"),
    .valued "-c" (some "50"),.valued "-rate-limit" (some "150")]

lemma Settings.given_args (s : Settings) : given s.args = (fixed ++ s.switches).flatMap settings := by
  have fits : ∀ switch ∈ fixed ++ s.switches, Fits switch := by simp [fixed,switches,Fits,valued]
  rw [← given_switches fits,List.flatMap_append,args_eq,List.append_nil]
  rfl

variable (targets : List String) (c : ScanConfig)

/-- Each item of the option with templates is selected, and nothing else is. -/
theorem selects_template_iff (template : String) :
    ("-t",template) ∈ given (Settings.ofConfig targets c).args ↔ template ∈ c.items "templates" := by
  simp [Settings.given_args,fixed,Settings.switches,settings,Settings.ofConfig,ScanConfig.getD_items]

lemma selects_severity_iff (level : String) :
    ("-s",level) ∈ given (Settings.ofConfig targets c).args ↔ severity c ≠ "" ∧ level = severity c := by
  have told : ("-s",level) ∈ given (Settings.ofConfig targets c).args ↔ filled? (severity c) = some level := by
    simp [Settings.given_args,fixed,Settings.switches,settings,Settings.ofConfig,severityOf_eq]
  rw [told,filled?]
  split
  · next empty => simp [empty]
  · next filled => simp [filled,eq_comm]

/-- No item remains just if there are commas and blanks only. -/
theorem items_eq_nil_iff (key : String) :
    c.items key = [] ↔ ∀ d ∈ (c.value key).toList, d = ',' ∨ isBlank d = true := by
  rw [ScanConfig.items,Recon.commaItems,List.map_eq_nil_iff,Text.commaItems,List.filter_eq_nil_iff]
  simp only [List.forall_mem_map,Bool.not_eq_true',List.isEmpty_eq_false_iff,not_not,trim_eq_nil_iff]
  constructor
  · intro blank d inside
    by_cases comma : d = ','
    · exact .inl comma
    · have kept : (d == ',') = false := by simpa using comma
      obtain ⟨piece,listed,here⟩ := (mem_iff_mem_pieces (p := (· == ',')) kept).mp inside
      exact .inr (blank piece listed d here)
  · intro either piece listed d here
    have kept : (d == ',') = false := not_of_mem_pieces (p := (· == ',')) listed here
    refine (either d ((mem_iff_mem_pieces (p := (· == ',')) kept).mpr ⟨piece,listed,here⟩)).resolve_left ?_
    simpa using kept

lemma severity_eq_empty_iff : severity c = "" ↔ c.value "templates" ≠ "" ∧ c.value "severity" = "" := by
  unfold severity
  split
  · next default => exact iff_of_false (by decide) fun h => h.1 default.1
  · next asked =>
    rw [not_and] at asked
    exact ⟨fun empty => ⟨fun none => asked none empty,empty⟩,fun h => h.2⟩

lemma restricted_args_iff : Restricted (Settings.ofConfig targets c).args ↔ ¬ Unselective c := by
  have selected : Restricted (Settings.ofConfig targets c).args ↔ c.items "templates" ≠ [] ∨ severity c ≠ "" := by
    constructor
    · rintro ⟨⟨flag,value⟩,listed,rfl | rfl⟩
      · exact .inl (List.ne_nil_of_mem ((selects_template_iff targets c value).mp listed))
      · exact .inr ((selects_severity_iff targets c value).mp listed).1
    · rintro (some | level)
      · obtain ⟨template,inside⟩ := List.exists_mem_of_ne_nil _ some
        exact ⟨_,(selects_template_iff targets c template).mpr inside,.inl rfl⟩
      · exact ⟨_,(selects_severity_iff targets c _).mpr ⟨level,rfl⟩,.inr rfl⟩
  have unselective : Unselective c ↔ c.items "templates" = [] ∧ severity c = "" := by
    rw [items_eq_nil_iff,severity_eq_empty_iff]
    exact ⟨fun h => ⟨h.empty,h.set,h.severity⟩,fun h => ⟨h.2.1,h.1,h.2.2⟩⟩
  rw [selected,unselective,not_and_or]

/-- With no severity asked for, the default comes in just if the option with templates is missing. -/
theorem selects_default_iff (level : c.value "severity" = "") :
    ("-s","high,critical") ∈ given (Settings.ofConfig targets c).args ↔ c.value "templates" = "" := by
  rw [selects_severity_iff,severity]
  by_cases missing : c.value "templates" = ""
  · simp [missing,level]
  · simp [missing,level]

end Arguments

variable {σ : Type}

/-- The program is given the templates of the option, one by one, and the severity asked for or else the default. So its
runs are restricted unless that option is set to commas and blanks while no severity is asked for: then there is no
template, and the default does not come in as it does for a missing option. -/
theorem restricted_unless_unselective (c : ScanConfig) :
    (∀ targets, Restricted (Settings.ofConfig targets c).args ↔ ¬ Unselective c) ∧
    (∀ targets template, ("-t",template) ∈ given (Settings.ofConfig targets c).args ↔ template ∈ c.items "templates") ∧
    (∀ targets level, ("-s",level) ∈ given (Settings.ofConfig targets c).args ↔ severity c ≠ "" ∧ level = severity c) ∧
    (c.value "severity" = "" → ∀ targets,
      ("-s","high,critical") ∈ given (Settings.ofConfig targets c).args ↔ c.value "templates" = "") ∧
    (∀ program (w : World σ) l now memory, ∀ e ∈ (scan program c).started w l now memory,
      Restricted e.1.args ↔ ¬ Unselective c) := by
  refine ⟨fun targets => restricted_args_iff targets c,fun targets => selects_template_iff targets c,
    fun targets => selects_severity_iff targets c,fun level targets => selects_default_iff targets c level,
    fun program w l now memory => ?_⟩
  have only : (scan program c).StartsOnly fun call => Restricted call.args ↔ ¬ Unselective c :=
    Tool.executeThen_startsOnly (restricted_args_iff (targets c) c) fun _ => trivial
  exact only.started l now memory

/-- A template among commas is selected, and a missing option brings in the default. -/
theorem restricted_unless_unselective_listed :
    (∃ e ∈ (scan "nuclei" ((ScanConfig.create 1 "a.b").withOption "templates" ", cves/,")).started World.still
      ⟨none,none⟩ 0 (), Restricted e.1.args) ∧
    ("-s","high,critical") ∈ given (Settings.ofConfig ["http://a.b"] (ScanConfig.create 1 "a.b")).args := by
  obtain ⟨-,-,-,-,run⟩ :=
    @restricted_unless_unselective Unit ((ScanConfig.create 1 "a.b").withOption "templates" ", cves/,")
  obtain ⟨-,-,-,default,-⟩ := @restricted_unless_unselective Unit (ScanConfig.create 1 "a.b")
  refine ⟨⟨_,List.mem_cons_self,(run "nuclei" World.still ⟨none,none⟩ 0 () _ List.mem_cons_self).mpr fun h => ?_⟩,
    (default rfl _).mpr rfl⟩
  obtain comma | blank := h.empty 'c' (by decide)
  · cases comma
  · cases blank

/-- With a comma for templates a run selects nothing. -/
theorem comma_lifts_restriction : ¬ Restricted (Settings.ofConfig ["http://a.b"]
      ((ScanConfig.create 1 "a.b").withOption "templates" ",")).args ∧
    ((ScanConfig.create 1 "a.b").withOption "templates" ",").items "templates" = [] ∧
    ((ScanConfig.create 1 "a.b").withOption "templates" ",").value "severity" = "" := by
  exact ⟨by decide,by decide,by decide⟩

end Recon.Nuclei
