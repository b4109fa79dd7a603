import Recon.Cli.Run
import Recon.Proofs.Cli.Reading
import Recon.Proofs.Engine.Briefing

/-! The tool that a scan from the command line comes to. The name of the tool travels among the options and is
put there first, so an option of that name takes its place. Of options with one name the last counts. -/
namespace Recon

lemma lookup?_append {α : Type} (key : String) (front back : List (String × α)) :
    lookup? key (front ++ back) = (lookup? key front).or (lookup? key back) := by
  induction front with
  | nil => rfl
  | cons e front ih =>
    rw [List.cons_append]
    simp only [lookup?,ih]
    split <;> rfl

/-- What is found comes from the first entry with the name. -/
theorem lookup?_eq_some_iff {α : Type} {key : String} {value : α} {entries : List (String × α)} :
    lookup? key entries = some value ↔
      ∃ front back, entries = front ++ (key,value) :: back ∧ ∀ e ∈ front, e.1 ≠ key := by
  constructor
  · intro h
    induction entries with
    | nil => cases h
    | cons e entries ih =>
      obtain ⟨k,v⟩ := e
      unfold lookup? at h
      by_cases hk : k = key
      · rw [if_pos hk] at h
        cases h
        exact ⟨[],entries,by rw [hk,List.nil_append],by simp⟩
      · rw [if_neg hk] at h
        obtain ⟨front,back,rfl,hf⟩ := ih h
        exact ⟨(k,v) :: front,back,rfl,List.forall_mem_cons.mpr ⟨hk,hf⟩⟩
  · rintro ⟨front,back,rfl,hf⟩
    induction front with
    | nil => simp [lookup?]
    | cons e front ih =>
      obtain ⟨hk,hf⟩ := List.forall_mem_cons.mp hf
      rw [List.cons_append,lookup?,if_neg hk,ih hf]

lemma Dict.get?_insertAll {α : Type} (d : Dict α) (entries : List (String × α)) (key : String) :
    (d.insertAll entries).get? key = (lookup? key entries.reverse).or (d.get? key) := by
  induction entries generalizing d with
  | nil => rfl
  | cons e entries ih =>
    change ((d.insert e.1 e.2).insertAll entries).get? key = _
    rw [ih,List.reverse_cons,lookup?_append,Option.or_assoc,get?_insert]
    congr 1
    simp only [lookup?]
    split <;> rfl

namespace Cli
namespace ScanRequest

/-- The value was given for the key, and no other after it. -/
def GivenLast (r : ScanRequest) (key value : String) : Prop :=
  ∃ before after, r.options = before ++ (key,value) :: after ∧ ∀ o ∈ after, o.1 ≠ key

/-- The value that was given last for `key`. -/
def last? (r : ScanRequest) (key : String) : Option String := lookup? key r.options.reverse

lemma last?_eq_some_iff {r : ScanRequest} {key value : String} :
    r.last? key = some value ↔ r.GivenLast key value := by
  unfold last? GivenLast
  rw [lookup?_eq_some_iff]
  constructor
  · rintro ⟨front,back,h,hf⟩
    refine ⟨back.reverse,front.reverse,?_,fun o ho => hf o (List.mem_reverse.mp ho)⟩
    rw [← List.reverse_reverse r.options,h]
    simp
  · rintro ⟨before,after,h,ha⟩
    refine ⟨after.reverse,before.reverse,?_,fun o ho => ha o (List.mem_reverse.mp ho)⟩
    rw [h]
    simp

/-- The tool that the request comes to. -/
def destination (r : ScanRequest) : String := (r.last? toolOption).getD r.tool

lemma foldl_withOption (entries : List (String × String)) (c : ScanConfig) :
    entries.foldl (fun c (e : String × String) => c.withOption e.1 e.2) c =
      { c with options := c.options.insertAll entries } := by
  induction entries generalizing c with
  | nil => rfl
  | cons e entries ih => exact ih (c.withOption e.1 e.2)

lemma base_eq (r : ScanRequest) : r.base = { ScanConfig.create r.projectId r.target with
    options := (Dict.empty.insert toolOption r.tool).insertAll r.options } :=
  foldl_withOption r.options _

lemma get?_base (r : ScanRequest) (key : String) : r.base.options.get? key =
    (r.last? key).or (if toolOption = key then some r.tool else none) := by
  rw [base_eq]
  change ((Dict.empty.insert toolOption r.tool).insertAll r.options).get? key = _
  rw [Dict.get?_insertAll,Dict.get?_insert,Dict.get?_empty]
  rfl

/-- A timeout leaves the options as they are. -/
theorem options_config {r : ScanRequest} {config : ScanConfig} (h : r.config = .ok config) :
    config.options = r.base.options := by
  unfold ScanRequest.config at h
  split at h
  · cases h
    rfl
  · obtain ⟨timeout,_,rfl⟩ := exists_of_map_eq_ok h
    rfl

lemma tool_config {r : ScanRequest} {config : ScanConfig} (h : r.config = .ok config) :
    config.tool = some r.destination := by
  unfold ScanConfig.tool destination
  rw [options_config h,get?_base,if_pos rfl]
  cases r.last? toolOption <;> rfl

lemma option_config {r : ScanRequest} {config : ScanConfig} (h : r.config = .ok config) {key : String}
    (hk : key ≠ toolOption) (value : String) :
    config.options.get? key = some value ↔ r.GivenLast key value := by
  rw [options_config h,get?_base,if_neg (Ne.symm hk),Option.or_none,last?_eq_some_iff]

lemma destination_of_givenLast {r : ScanRequest} {value : String} (h : r.GivenLast toolOption value) :
    r.destination = value := by
  unfold destination
  rw [last?_eq_some_iff.mpr h,Option.getD_some]

/-- A request comes to the tool that it names unless its options have another one last. -/
theorem destination_eq_iff {r : ScanRequest} :
    r.destination = r.tool ↔ ∀ value, r.GivenLast toolOption value → value = r.tool := by
  constructor
  · intro h value hv
    rw [← h,destination_of_givenLast hv]
  · intro h
    unfold destination
    cases hl : r.last? toolOption with
    | none => rfl
    | some value => exact h value (last?_eq_some_iff.mp hl)

end ScanRequest

namespace Surroundings

variable {σ : Type}

/-- What a scan from the command line does is what its configuration makes the registry do. -/
theorem events_of_scan {s : Surroundings σ} {i : Invocation} {r : ScanRequest} {settings : Settings}
    {config : ScanConfig} (asked : i.task = .scan r) (loaded : Settings.load s.host i.settingsFile = .ok settings)
    (timed : r.config = .ok config) (memory : σ) :
    (s.run i memory).events = ((s.registry settings).scan s.world config 0 memory).events := by
  unfold run
  rw [loaded,asked]
  unfold runTask runScan
  simp only [timed]

/-- A scan comes to the tool that was named last, by the command or by an option of that name; any other option
has the value that was given last. A stage comes to its own scanners whatever its options say. -/
theorem run_comes_to_destination {s : Surroundings σ} {words : List String} {i : Invocation} {r : ScanRequest}
    {settings : Settings} {config : ScanConfig} (read : readArguments s.host.settingsFile words = .ok i)
    (asked : i.task = .scan r) (loaded : Settings.load s.host i.settingsFile = .ok settings)
    (timed : r.config = .ok config) (memory : σ) :
    dispatches (s.run i memory).events = [config] ∧
    (s.registry settings).select config = (s.registry settings).get r.destination ∧
    (∀ scanner told, .verified scanner told ∈ (s.run i memory).events ∨
      .entered scanner told ∈ (s.run i memory).events → scanner = r.destination ∧ told = config) ∧
    (∀ value, r.GivenLast toolOption value → r.destination = value) ∧
    (r.destination = r.tool ↔ ∀ value, r.GivenLast toolOption value → value = r.tool) ∧
    (∀ key, key ≠ toolOption → ∀ value, config.options.get? key = some value ↔ r.GivenLast key value) ∧
    (∀ o ∈ r.options, ∃ text, readOption? text = some o) ∧
    ∀ (e : Engine σ) (p : Pipeline) (timeout : Duration) (index : Nat) (stage : Stage)
      (previous : List ScanResult) (now : Nat) (memory : σ),
      ∀ c ∈ dispatches (e.runStage p timeout index stage previous now memory).events,
        ∃ name ∈ stage.scanners, c.tool = some name := by
  have tool := ScanRequest.tool_config timed
  rw [events_of_scan asked loaded timed memory]
  refine ⟨Registry.dispatches_scan ..,?_,?_,fun value => ScanRequest.destination_of_givenLast,
    ScanRequest.destination_eq_iff,fun key hk => ScanRequest.option_config timed hk,
    options_of_readArguments read asked,?_⟩
  · unfold Registry.select
    rw [tool]
  · intro scanner told h
    obtain ⟨rfl,hs⟩ := Registry.tells_scan h
    rw [tool] at hs
    exact ⟨(Option.some.inj hs).symm,rfl⟩
  · intro e p timeout index stage previous now memory c hc
    exact e.tool_of_dispatches p timeout index stage previous now memory hc

/-- A machine with every program and without files, on which no program can be started. -/
def bare : Surroundings Unit where
  host := { read := fun _ => .error .missing, isProgram := fun _ => true, home := none, settingsFile := none }
  world := .still
  arrival := .byFinish Unit

/-- A scan with one tool, among whose options is the name of another. -/
def diversion : ScanRequest :=
  ⟨"nmap",1,"example.com",[("ports","80"),("tool","httpx"),("ports","443")],none⟩

def diverted : List String := scanWords "nmap" "1" "example.com" ["ports=80"," tool = httpx","ports = 443 "] none

lemma readArguments_diverted : readArguments none diverted = .ok { task := .scan diversion } :=
  readArguments_scanWords rfl (.cons rfl (.cons rfl (.cons rfl .nil)))

theorem run_comes_to_destination_diverted : readArguments bare.host.settingsFile diverted =
      .ok { task := .scan diversion } ∧
    Settings.load bare.host none = .ok {} ∧ diversion.config = .ok diversion.base ∧
    diversion.destination = "httpx" ∧
    dispatches (bare.run { task := .scan diversion } ()).events = [diversion.base] ∧
    diversion.base.options.get? "ports" = some "443" := by
  obtain ⟨asked,_,_,last,_,option,_⟩ :=
    run_comes_to_destination (s := bare) readArguments_diverted rfl rfl rfl ()
  have tool : diversion.GivenLast toolOption "httpx" := ⟨[("ports","80")],[("ports","443")],rfl,by decide⟩
  have ports : diversion.GivenLast "ports" "443" := ⟨[("ports","80"),("tool","httpx")],[],rfl,nofun⟩
  exact ⟨readArguments_diverted,rfl,rfl,last "httpx" tool,asked,(option "ports" (by decide) "443").mpr ports⟩

/-- The tool that was asked for is not even looked up. -/
theorem scan_comes_to_other_tool : ∃ i r, readArguments bare.host.settingsFile diverted = .ok i ∧
    i.task = .scan r ∧ r.tool = "nmap" ∧ (dispatches (bare.run i ()).events).map (·.tool) = [some "httpx"] ∧
    .entered "httpx" r.base ∈ (bare.run i ()).events :=
  ⟨_,diversion,readArguments_diverted,rfl,rfl,rfl,List.mem_of_getElem? (i := 2) rfl⟩

end Surroundings
end Cli
end Recon
