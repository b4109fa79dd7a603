import Mathlib.Tactic.MkIffOfInductiveProp
import Mathlib.Tactic.SplitIfs
import Recon.Tool.Gobuster
import Recon.Tool.Httpx
import Recon.Tool.Nmap
import Recon.Tool.Nuclei
import Recon.Tool.Subfinder

/-! What the arguments of the tools tell of the settings. A switch begins with a flag that begins none of those after
it, so switches can be told apart one after the other, whatever the values between the flags are. -/
namespace Recon

/-- A part of the arguments that may be left out. -/
inductive Switch where
  | plain (flag : String) (set : Bool)
  | valued (flag : String) (value : Option String)
  | repeated (flag : String) (values : List String)

namespace Switch

def flag : Switch → String
  | plain flag _ | valued flag _ | repeated flag _ => flag

/-- The switch as it is when it is left out. -/
def unset : Switch → Switch
  | plain flag _ => plain flag false
  | valued flag _ => valued flag none
  | repeated flag _ => repeated flag []

def args : Switch → List String
  | plain flag set => flagArgs flag set
  | valued flag value => optionArgs flag value
  | repeated flag values => values.flatMap fun value => [flag,value]

lemma flag_unset (s : Switch) : s.unset.flag = s.flag := by
  cases s <;> rfl

/-- A switch writes nothing or begins with its flag. -/
theorem args_cases (s : Switch) : (s.args = [] ∧ s = s.unset) ∨ ∃ rest, s.args = s.flag :: rest := by
  cases s with
  | plain flag set =>
    cases set with
    | false => exact .inl ⟨rfl,rfl⟩
    | true => exact .inr ⟨_,rfl⟩
  | valued flag value =>
    cases value with
    | none => exact .inl ⟨rfl,rfl⟩
    | some value => exact .inr ⟨_,rfl⟩
  | repeated flag values =>
    cases values with
    | nil => exact .inl ⟨rfl,rfl⟩
    | cons value values => exact .inr ⟨_,rfl⟩

end Switch

/-- The arguments are none or begin with one of `flags`. -/
def Leads (flags args : List String) : Prop := ∀ first ∈ args.head?, first ∈ flags

section Switches

variable {flag : String} {flags args args' : List String}

lemma Leads.nil : Leads [] [] := nofun

/-- Other arguments do not begin with the flag. -/
theorem Leads.ne_cons (h : Leads flags args) (fresh : flag ∉ flags) (rest : List String) : args ≠ flag :: rest := by
  rintro rfl
  exact fresh (h flag rfl)

lemma Leads.switch (h : Leads flags args) (s : Switch) : Leads (s.flag :: flags) (s.args ++ args) := by
  obtain ⟨empty,-⟩ | ⟨rest,led⟩ := s.args_cases
  · rw [empty]
    exact fun first lead => List.mem_cons_of_mem _ (h first lead)
  · rw [led]
    rintro _ ⟨⟩
    exact List.mem_cons_self

lemma repeated_append_inj (fresh : flag ∉ flags) (h : Leads flags args) (h' : Leads flags args')
    {values values' : List String}
    (same : (Switch.repeated flag values).args ++ args = (Switch.repeated flag values').args ++ args') :
    values = values' ∧ args = args' := by
  induction values generalizing values' with
  | nil =>
    cases values' with
    | nil => exact ⟨rfl,same⟩
    | cons value' values' => exact absurd same (h.ne_cons fresh _)
  | cons value values ih =>
    cases values' with
    | nil => exact absurd same.symm (h'.ne_cons fresh _)
    | cons value' values' =>
      obtain ⟨rfl,later⟩ := List.cons.inj (List.cons.inj same).2
      obtain ⟨rfl,rest⟩ := ih later
      exact ⟨rfl,rest⟩

lemma plain_append_inj (fresh : flag ∉ flags) (h : Leads flags args) (h' : Leads flags args') {set set' : Bool}
    (same : flagArgs flag set ++ args = flagArgs flag set' ++ args') : set = set' ∧ args = args' := by
  cases set <;> cases set'
  · exact ⟨rfl,same⟩
  · exact absurd same (h.ne_cons fresh _)
  · exact absurd same.symm (h'.ne_cons fresh _)
  · exact ⟨rfl,(List.cons.inj same).2⟩

lemma valued_append_inj (fresh : flag ∉ flags) (h : Leads flags args) (h' : Leads flags args')
    {value value' : Option String} (same : optionArgs flag value ++ args = optionArgs flag value' ++ args') :
    value = value' ∧ args = args' := by
  cases value <;> cases value'
  · exact ⟨rfl,same⟩
  · exact absurd same (h.ne_cons fresh _)
  · exact absurd same.symm (h'.ne_cons fresh _)
  · obtain ⟨rfl,rest⟩ := List.cons.inj (List.cons.inj same).2
    exact ⟨rfl,rest⟩

/-- Of two switches that differ at most in what they are set to each can be told from what comes after it. -/
theorem switch_append_inj {s s' : Switch} (alike : s.unset = s'.unset) (fresh : s.flag ∉ flags) (h : Leads flags args)
    (h' : Leads flags args') (same : s.args ++ args = s'.args ++ args') : s = s' ∧ args = args' := by
  cases s with
  | plain flag set =>
    cases s' <;> cases alike
    obtain ⟨rfl,rest⟩ := plain_append_inj fresh h h' same
    exact ⟨rfl,rest⟩
  | valued flag value =>
    cases s' <;> cases alike
    obtain ⟨rfl,rest⟩ := valued_append_inj fresh h h' same
    exact ⟨rfl,rest⟩
  | repeated flag values =>
    cases s' <;> cases alike
    obtain ⟨rfl,rest⟩ := repeated_append_inj fresh h h' same
    exact ⟨rfl,rest⟩

lemma Leads.switches (h : Leads flags args) (switches : List Switch) :
    Leads (switches.map Switch.flag ++ flags) (switches.flatMap Switch.args ++ args) := by
  induction switches with
  | nil => exact h
  | cons s switches ih =>
    rw [List.flatMap_cons,List.append_assoc]
    exact ih.switch s

lemma switches_append_inj {switches switches' : List Switch}
    (alike : switches.map Switch.unset = switches'.map Switch.unset)
    (distinct : (switches.map Switch.flag ++ flags).Nodup) (h : Leads flags args) (h' : Leads flags args')
    (same : switches.flatMap Switch.args ++ args = switches'.flatMap Switch.args ++ args') :
    switches = switches' ∧ args = args' := by
  induction switches generalizing switches' with
  | nil =>
    obtain rfl := List.map_eq_nil_iff.mp alike.symm
    exact ⟨rfl,same⟩
  | cons s switches ih =>
    cases switches' with
    | nil => cases alike
    | cons s' switches' =>
      obtain ⟨first,others⟩ := List.cons.inj alike
      obtain ⟨fresh,distinct⟩ := List.nodup_cons.mp distinct
      have flags_eq : switches'.map Switch.flag = switches.map Switch.flag := by
        have := congrArg (List.map Switch.flag) others
        simpa only [List.map_map,Function.comp_def,Switch.flag_unset] using this.symm
      rw [List.flatMap_cons,List.flatMap_cons,List.append_assoc,List.append_assoc] at same
      obtain ⟨rfl,later⟩ := switch_append_inj first fresh (h.switches switches) (flags_eq ▸ h'.switches switches') same
      obtain ⟨rfl,rest⟩ := ih others distinct later
      exact ⟨rfl,rest⟩

/-- Whatever switches with distinct flags are set to, they can be told from what they come to. -/
theorem setting_append_inj {α : Type} (switches : α → List Switch) (names : List String)
    (alike : ∀ s s', (switches s).map Switch.unset = (switches s').map Switch.unset)
    (named : ∀ s, (switches s).map Switch.flag = names) (distinct : (names ++ flags).Nodup) (h : Leads flags args)
    (h' : Leads flags args') {s s' : α} :
    (switches s).flatMap Switch.args ++ args = (switches s').flatMap Switch.args ++ args' ↔
      switches s = switches s' ∧ args = args' := by
  constructor
  · exact switches_append_inj (alike s s') (by rwa [named]) h h'
  · rintro ⟨same,rfl⟩
    rw [same]

end Switches

/-- A value that counts unless it is empty. -/
def filled? (value : String) : Option String := if value = "" then none else some value

lemma filled?_inj {value value' : String} : filled? value = filled? value' ↔ value = value' := by
  unfold filled?
  split <;> split
  · next empty empty' => exact iff_of_true rfl (empty.trans empty'.symm)
  · next empty filled => exact iff_of_false nofun fun same => filled (same.symm.trans empty)
  · next filled empty => exact iff_of_false nofun fun same => filled (same.trans empty)
  · exact Option.some_inj

namespace ScanConfig

variable (c c' : ScanConfig) (key : String)

/-- The value of an option, where none is as good as an empty one. -/
def value : String := (c.options.get? key).getD ""

def valueOr (default : String) : String := if c.value key = "" then default else c.value key

/-- The items of a comma-separated option. -/
def items : List String := commaItems (c.value key)

def SameValues (keys : List String) : Prop := ∀ key ∈ keys, c.value key = c'.value key

def SameFlags (keys : List String) : Prop := ∀ key ∈ keys, c.value key = "true" ↔ c'.value key = "true"

@[simp] lemma sameValues_nil : c.SameValues c' [] ↔ True := iff_true_intro nofun

@[simp] lemma sameValues_cons (keys : List String) :
    c.SameValues c' (key :: keys) ↔ c.value key = c'.value key ∧ c.SameValues c' keys := List.forall_mem_cons

@[simp] lemma sameFlags_nil : c.SameFlags c' [] ↔ True := iff_true_intro nofun

@[simp] lemma sameFlags_cons (keys : List String) :
    c.SameFlags c' (key :: keys) ↔ (c.value key = "true" ↔ c'.value key = "true") ∧ c.SameFlags c' keys :=
  List.forall_mem_cons

lemma option_eq : c.option key = filled? (c.value key) := by
  unfold option value
  cases c.options.get? key with
  | none => rfl
  | some value =>
    by_cases empty : value = ""
    · simp [filled?,empty]
    · simp [filled?,empty]

lemma getD_option (default : String) : (c.option key).getD default = c.valueOr key default := by
  rw [option_eq,filled?,valueOr]
  split <;> rfl

lemma flag_iff : c.flag key = true ↔ c.value key = "true" := by
  rw [flag,beq_iff_eq,option_eq,filled?]
  split
  · next empty => simp [empty]
  · exact Option.some_inj

lemma getD_items : ((c.option key).map commaItems).getD [] = c.items key := by
  rw [option_eq,filled?,items]
  split
  · next empty =>
    rw [empty]
    rfl
  · rfl

lemma headers_eq : c.headers = c.items "headers" := c.getD_items "headers"

variable {c c' key}

lemma option_eq_iff : c.option key = c'.option key ↔ c.value key = c'.value key := by
  rw [option_eq,option_eq,filled?_inj]

lemma flag_eq_iff : c.flag key = c'.flag key ↔ (c.value key = "true" ↔ c'.value key = "true") := by
  rw [Bool.eq_iff_iff,flag_iff,flag_iff]

end ScanConfig

open ScanConfig

namespace Subfinder

@[mk_iff] structure SameSettings (domain domain' : String) (c c' : ScanConfig) : Prop where
  domain : domain = domain'
  values : c.SameValues c' ["sources","timeout","config"]
  flags : c.SameFlags c' ["recursive"]

def Settings.switches (s : Settings) : List Switch :=
  [.valued "-sources" s.sources,.plain "-recursive" s.recursive,.valued "-timeout" s.timeout,.valued "-config" s.config]

lemma Settings.args_eq (s : Settings) :
    s.args = ["-d",s.domain,"-silent"] ++ (s.switches.flatMap Switch.args ++ []) := by
  simp [args,switches,Switch.args]

lemma args_eq_iff (domain domain' : String) (c c' : ScanConfig) :
    (Settings.ofConfig domain c).args = (Settings.ofConfig domain' c').args ↔ SameSettings domain domain' c c' := by
  have front (d e : String) (rest rest' : List String) :
      ["-d",d,"-silent"] ++ rest = ["-d",e,"-silent"] ++ rest' ↔ d = e ∧ rest = rest' := by simp
  rw [Settings.args_eq,Settings.args_eq,Settings.ofConfig,Settings.ofConfig,front,
    setting_append_inj Settings.switches ["-sources","-recursive","-timeout","-config"] (fun _ _ => rfl) (fun _ => rfl)
      (by decide) .nil .nil,sameSettings_iff]
  simp only [Settings.switches,List.cons.injEq,Switch.valued.injEq,Switch.plain.injEq,option_eq_iff,flag_eq_iff,
    sameValues_cons,sameValues_nil,sameFlags_cons,sameFlags_nil,true_and,and_left_comm,and_comm]

end Subfinder

namespace Nmap

/-- The flag for the kind of scan that is asked for. -/
def scanFlag (c : ScanConfig) : String :=
  if c.value "scan_type" = "" ∨ c.value "scan_type" = "connect" then "-sT"
  else if c.value "scan_type" = "udp" then "-sU"
  else if c.value "scan_type" = "version" then "-sV"
  else "-sS"

@[mk_iff] structure SameSettings (target target' : String) (c c' : ScanConfig) : Prop where
  target : target = target'
  scanFlag : scanFlag c = scanFlag c'
  values : c.SameValues c' ["ports","scripts","parallelism"]
  flags : c.SameFlags c' ["detect_service","detect_os"]

lemma flag_scanType (target : String) (c : ScanConfig) : (Settings.ofConfig target c).scanType.flag = scanFlag c := by
  simp only [Settings.ofConfig,getD_option,ScanType.ofName,valueOr,scanFlag]
  by_cases empty : c.value "scan_type" = ""
  · simp [empty,ScanType.flag]
  · by_cases connect : c.value "scan_type" = "connect"
    · simp [connect,ScanType.flag]
    · simp only [empty,connect,if_false,false_or]
      split_ifs <;> rfl

def Settings.switches (s : Settings) : List Switch :=
  [.plain "-sV" s.detectService,.plain "-O" s.detectOs,.valued "--script" s.scripts,
    .valued "--min-parallelism" s.parallelism]

lemma Settings.args_eq (s : Settings) : s.args = (["-oX","-","--max-rate","1000","-T4",s.scanType.flag] ++
    (portArgs s.ports ++ (s.switches.flatMap Switch.args ++ []))) ++ [s.target] := by
  simp [args,switches,Switch.args]

lemma portArgs_append_inj {ports ports' : Option String} {args args' : List String} :
    portArgs ports ++ args = portArgs ports' ++ args' ↔ ports = ports' ∧ args = args' := by
  cases ports <;> cases ports' <;> simp [portArgs]

/-- The target comes last, so it cannot be taken for a switch. -/
theorem args_eq_iff (target target' : String) (c c' : ScanConfig) :
    (Settings.ofConfig target c).args = (Settings.ofConfig target' c').args ↔ SameSettings target target' c c' := by
  have front (kind kind' : String) (rest rest' : List String) :
      ["-oX","-","--max-rate","1000","-T4",kind] ++ rest = ["-oX","-","--max-rate","1000","-T4",kind'] ++ rest' ↔
        kind = kind' ∧ rest = rest' := by simp
  rw [Settings.args_eq,Settings.args_eq,List.append_singleton_inj,front,portArgs_append_inj,flag_scanType,flag_scanType,
    setting_append_inj Settings.switches ["-sV","-O","--script","--min-parallelism"] (fun _ _ => rfl) (fun _ => rfl)
      (by decide) .nil .nil,sameSettings_iff]
  simp only [Settings.switches,Settings.ofConfig,List.cons.injEq,Switch.valued.injEq,Switch.plain.injEq,option_eq_iff,
    flag_eq_iff,sameValues_cons,sameValues_nil,sameFlags_cons,sameFlags_nil,true_and,and_assoc,and_left_comm,and_comm]

end Nmap

namespace Httpx

@[mk_iff] structure SameSettings (c c' : ScanConfig) : Prop where
  flags : c.SameFlags c' ["detect_tech","extract_title","show_status","show_length","show_server","show_time",
    "follow_redirect"]
  headers : c.items "headers" = c'.items "headers"

def switches (c : ScanConfig) : List Switch :=
  flags.map (fun f => .plain f.2 (c.flag f.1)) ++ [.repeated "-H" c.headers]

lemma args_eq (c : ScanConfig) :
    (Settings.ofConfig c).args = ["-json","-silent","-timeout","10","-retries","2","-threads","100"] ++
      ((switches c).flatMap Switch.args ++ []) := by
  simp [Settings.args,Settings.ofConfig,switches,flags,Switch.args,headerArgs]

lemma args_eq_iff (c c' : ScanConfig) :
    (Settings.ofConfig c).args = (Settings.ofConfig c').args ↔ SameSettings c c' := by
  rw [args_eq,args_eq,List.append_right_inj,
    setting_append_inj switches ["-tech-detect","-title","-status-code","-content-length","-web-server",
      "-response-time","-follow-redirects","-H"] (fun _ _ => rfl) (fun _ => rfl) (by decide) .nil .nil,sameSettings_iff]
  simp only [switches,flags,List.map_cons,List.map_nil,List.cons_append,List.nil_append,List.cons.injEq,
    Switch.plain.injEq,Switch.repeated.injEq,flag_eq_iff,headers_eq,sameFlags_cons,sameFlags_nil,true_and,and_true,
    and_assoc]

end Httpx

namespace Gobuster

@[mk_iff] structure SameSettings (url url' : String) (c c' : ScanConfig) : Prop where
  url : url = url'
  wordlist : c.valueOr "wordlist" "/usr/share/wordlists/dirb/common.txt" =
    c'.valueOr "wordlist" "/usr/share/wordlists/dirb/common.txt"
  extensions : c.valueOr "extensions" "php,html,js,txt,xml,json,bak,backup" =
    c'.valueOr "extensions" "php,html,js,txt,xml,json,bak,backup"
  statusCodes : c.valueOr "status_codes" "200,204,301,302,307,403" =
    c'.valueOr "status_codes" "200,204,301,302,307,403"
  values : c.SameValues c' ["exclude_status","exclude_length","user_agent","proxy","cookies"]
  headers : c.items "headers" = c'.items "headers"
  flags : c.SameFlags c' ["recursive"]
  /-- Only looked at when recursive. -/
  depth : c.value "recursive" = "true" → c.value "depth" = c'.value "depth"

def Settings.switches (s : Settings) : List Switch :=
  [.valued "-b" s.excludeStatus,.valued "--exclude-length" s.excludeLength,.valued "-a" s.userAgent,
    .valued "--proxy" s.proxy,.valued "-c" s.cookies,.repeated "-H" s.headers,.plain "-R" s.recursive,
    .valued "--depth" (if s.recursive then s.depth else none)]

lemma Settings.args_eq (s : Settings) : s.args =
    ["dir","-u",s.url,"-q","-r","--timeout","10s","--wildcard","-t","50","-w",s.wordlist,"-x",s.extensions,"-s",
      s.statusCodes] ++ (s.switches.flatMap Switch.args ++ []) := by
  simp [args,switches,Switch.args,headerArgs]

lemma args_eq_iff (url url' : String) (c c' : ScanConfig) :
    (Settings.ofConfig url c).args = (Settings.ofConfig url' c').args ↔ SameSettings url url' c c' := by
  have front (u v w y x z s r : String) (rest rest' : List String) :
      ["dir","-u",u,"-q","-r","--timeout","10s","--wildcard","-t","50","-w",w,"-x",x,"-s",s] ++ rest =
        ["dir","-u",v,"-q","-r","--timeout","10s","--wildcard","-t","50","-w",y,"-x",z,"-s",r] ++ rest' ↔
          u = v ∧ w = y ∧ x = z ∧ s = r ∧ rest = rest' := by simp
  rw [Settings.args_eq,Settings.args_eq,front,
    setting_append_inj Settings.switches ["-b","--exclude-length","-a","--proxy","-c","-H","-R","--depth"]
      (fun _ _ => rfl) (fun _ => rfl) (by decide) .nil .nil,sameSettings_iff]
  simp only [Settings.switches,Settings.ofConfig,List.cons.injEq,Switch.valued.injEq,Switch.plain.injEq,
    Switch.repeated.injEq,option_eq_iff,flag_eq_iff,getD_option,headers_eq,sameValues_cons,sameValues_nil,
    sameFlags_cons,sameFlags_nil,true_and,and_true,and_assoc,and_congr_right_iff]
  intro _ _ _ _ _ _ _ _ _ _ recursive
  simp only [flag_iff,recursive]
  by_cases set : c'.value "recursive" = "true"
  · simp only [set,if_true,true_imp_iff,option_eq_iff]
  · simp only [set,if_false,false_imp_iff]

end Gobuster

namespace Nuclei

/-- High and critical findings when neither templates nor a severity are asked for. -/
def severity (c : ScanConfig) : String :=
  if c.value "templates" = "" ∧ c.value "severity" = "" then "high,critical" else c.value "severity"

@[mk_iff] structure SameSettings (targets targets' : List String) (c c' : ScanConfig) : Prop where
  targets : targets = targets'
  templates : c.items "templates" = c'.items "templates"
  severity : severity c = severity c'
  values : c.SameValues c' ["tags","exclude_tags"]
  headers : c.items "headers" = c'.items "headers"
  flags : c.SameFlags c' ["follow_redirect"]

lemma severityOf_eq (c : ScanConfig) : severityOf c = filled? (severity c) := by
  unfold severityOf severity
  rw [option_eq,option_eq]
  by_cases templates : c.value "templates" = ""
  · by_cases level : c.value "severity" = ""
    · simp [filled?,templates,level]
    · simp [filled?,templates,level]
  · simp [filled?,templates]

def Settings.switches (s : Settings) : List Switch :=
  [.repeated "-t" s.templates,.valued "-s" s.severity,.valued "-tags" s.tags,.valued "-etags" s.excludeTags,
    .repeated "-H" s.headers,.plain "-follow-redirects" s.followRedirect,.plain "-duc" true,.repeated "-u" s.targets]

lemma Settings.args_eq (s : Settings) : s.args =
    ["-jsonl","-silent","-timeout","10","-retries","2","-c","50","-rate-limit","150"] ++
      (s.switches.flatMap Switch.args ++ []) := by
  simp [args,switches,Switch.args,headerArgs,flagArgs]

lemma args_eq_iff (targets targets' : List String) (c c' : ScanConfig) :
    (Settings.ofConfig targets c).args = (Settings.ofConfig targets' c').args ↔ SameSettings targets targets' c c' := by
  rw [Settings.args_eq,Settings.args_eq,List.append_right_inj,
    setting_append_inj Settings.switches ["-t","-s","-tags","-etags","-H","-follow-redirects","-duc","-u"]
      (fun _ _ => rfl) (fun _ => rfl) (by decide) .nil .nil,sameSettings_iff]
  simp only [Settings.switches,Settings.ofConfig,List.cons.injEq,Switch.valued.injEq,Switch.plain.injEq,
    Switch.repeated.injEq,option_eq_iff,flag_eq_iff,getD_items,headers_eq,severityOf_eq,filled?_inj,sameValues_cons,
    sameValues_nil,sameFlags_cons,sameFlags_nil,true_and,and_assoc,and_left_comm,and_comm]

end Nuclei

/-- The arguments of each tool are the same just if the settings are, whatever the values: an empty value is none,
defaults stand for what is not set, and the depth counts only when recursive. -/
theorem args_tell_settings (c c' : ScanConfig) :
    (∀ domain domain', (Subfinder.Settings.ofConfig domain c).args = (Subfinder.Settings.ofConfig domain' c').args ↔
      Subfinder.SameSettings domain domain' c c') ∧
    (∀ target target', (Nmap.Settings.ofConfig target c).args = (Nmap.Settings.ofConfig target' c').args ↔
      Nmap.SameSettings target target' c c') ∧
    ((Httpx.Settings.ofConfig c).args = (Httpx.Settings.ofConfig c').args ↔ Httpx.SameSettings c c') ∧
    (∀ url url', (Gobuster.Settings.ofConfig url c).args = (Gobuster.Settings.ofConfig url' c').args ↔
      Gobuster.SameSettings url url' c c') ∧
    (∀ targets targets', (Nuclei.Settings.ofConfig targets c).args = (Nuclei.Settings.ofConfig targets' c').args ↔
      Nuclei.SameSettings targets targets' c c') :=
  ⟨fun domain domain' => Subfinder.args_eq_iff domain domain' c c',
    fun target target' => Nmap.args_eq_iff target target' c c',Httpx.args_eq_iff c c',
    fun url url' => Gobuster.args_eq_iff url url' c c',fun targets targets' => Nuclei.args_eq_iff targets targets' c c'⟩

end Recon
