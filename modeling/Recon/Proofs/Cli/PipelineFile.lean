import Recon.Proofs.Cli.Printing
import Recon.Proofs.Engine.Fate
import Recon.Proofs.Engine.Matching

/-! What a pipeline file decides. Its project and its target are replaced by those of the command line, its timeout
counts just if the settings honour it, and what it says about going on after errors just if the settings say nothing.
Two runs with files that agree in the rest cannot be told apart but by the calendar. -/
namespace Recon

variable {σ : Type}

/-- Pipelines that agree in all that the settings leave to them. -/
structure PipelineSettings.Agree (settings : PipelineSettings) (f f' : Pipeline) : Prop where
  name : f.name = f'.name
  stages : List.Forall₂ Stage.Matches f.stages f'.stages
  continueOnError : settings.continueOnError = none → f.continueOnError = f'.continueOnError
  timeout : settings.honorPipelineTimeout = true → f.timeout = f'.timeout

namespace PipelineSettings.Agree

variable {settings : PipelineSettings} {f f' : Pipeline} (h : settings.Agree f f')

include h

/-- Bound to one project and one target, they match. -/
theorem matches_apply (projectId : UInt64) (target : String) :
    (settings.apply (f.forTarget projectId target)).Matches (settings.apply (f'.forTarget projectId target)) := by
  unfold apply
  cases hc : settings.continueOnError with
  | none => exact ⟨h.name,rfl,rfl,h.stages,h.continueOnError hc⟩
  | some b => exact ⟨h.name,rfl,rfl,h.stages,rfl⟩

lemma resolve_apply (projectId : UInt64) (target : String) :
    settings.policy.resolve (settings.apply (f.forTarget projectId target)) =
      settings.policy.resolve (settings.apply (f'.forTarget projectId target)) := by
  have kept (q : Pipeline) : (settings.apply (q.forTarget projectId target)).timeout = q.timeout := by
    unfold apply
    cases settings.continueOnError <;> rfl
  unfold policy
  split
  · next honoured =>
    simp only [StageTimeout.resolve,kept,h.timeout honoured]
  · rfl

end PipelineSettings.Agree

/-- The jobs that were started, in order, each with the name of its scanner. -/
def Registry.jobs (r : Registry) (events : List Event) : List (String × Option Job) :=
  (entered events).map fun (name,config) => (name,(r.find? name).map fun s => s.scan config)

lemma Registry.jobs_eq {r : Registry} (blind : ∀ s ∈ r.scanners, s.Blind) {events events' : List Event}
    (h : List.Forall₂ Event.Matches events events') : r.jobs events = r.jobs events' := by
  induction h with
  | nil => rfl
  | cons first _ ih =>
    cases first with
    | dispatched | verified => exact ih
    | entered scanner same =>
      refine congrArg₂ List.cons (congrArg (Prod.mk scanner) ?_) ih
      cases hf : r.find? scanner with
      | none => rfl
      | some s => exact congrArg some (blind s (List.mem_of_find?_eq_some hf) _ _ same).2

namespace Cli

/-- Runs that cannot be told apart but by the times of their results. -/
structure Run.Matches (r : Registry) (run run' : Run σ) : Prop where
  code : run.outcome.code = run'.outcome.code
  message : run.outcome.stderr = run'.outcome.stderr
  results : ∃ xs xs', run.outcome.stdout = sheets xs ∧ run'.outcome.stdout = sheets xs' ∧
    xs.map ScanResult.timeless = xs'.map ScanResult.timeless
  jobs : r.jobs run.events = r.jobs run'.events
  warnings : run.warnings = run'.warnings
  memory : run.memory = run'.memory

/-- Runs of pipelines of one name that end alike are told alike. -/
theorem Outcome.TellsPipeline.alike {o o' : Outcome} {name : String} {verdict verdict' : PipelineVerdict}
    {xs xs' : List ScanResult} (told : o.TellsPipeline name verdict xs) (told' : o'.TellsPipeline name verdict' xs')
    (same : verdict.map ScanResult.timeless = verdict'.map ScanResult.timeless) :
    o.code = o'.code ∧ o.stderr = o'.stderr ∧ o.stdout = sheets xs ∧ o'.stdout = sheets xs' ∧
      xs.map ScanResult.timeless = xs'.map ScanResult.timeless := by
  cases told with
  | finished ended told =>
    cases told' with
    | finished ended' told' =>
      rw [ended,ended'] at same
      rw [told,told']
      exact ⟨rfl,rfl,rfl,rfl,PipelineVerdict.finished.inj same⟩
    | stopped ended' told' =>
      rw [ended,ended'] at same
      cases same
  | stopped ended told =>
    cases told' with
    | finished ended' told' =>
      rw [ended,ended'] at same
      cases same
    | stopped ended' told' =>
      rw [ended,ended'] at same
      obtain ⟨rfl,results⟩ := PipelineVerdict.stopped.inj same
      rw [told,told']
      exact ⟨rfl,rfl,rfl,rfl,results⟩

namespace Surroundings

lemma blind_registry (s : Surroundings σ) (settings : Settings) : ∀ t ∈ (s.registry settings).scanners, t.Blind := by
  intro t ht
  obtain ht | ht := Registry.mem_of_registerAll ht
  · cases ht
  · exact Adapter.blind_scanners ht

variable {s : Surroundings σ} {settings : Settings} {request : PipelineRequest} {p : Pipeline}

/-- The run of a pipeline is shown as it is. -/
theorem runPipeline_shows (bound : s.pipeline settings request = .ok p) (memory : σ) :
    (s.runPipeline settings request memory).events = (s.pipelineRun settings p memory).events ∧
    (s.runPipeline settings request memory).warnings = (s.pipelineRun settings p memory).warnings ∧
    (s.runPipeline settings request memory).memory = (s.pipelineRun settings p memory).memory := by
  unfold runPipeline
  simp only [bound]
  exact ⟨rfl,rfl,rfl⟩

lemma pipeline_of_file {path : String} {f : Pipeline} (found : Pipeline.ofFile s.host path = .ok f)
    (settings : Settings) (projectId : UInt64) (target : String) : s.pipeline settings ⟨.file path,projectId,target⟩ =
      .ok (settings.pipeline.apply (f.forTarget projectId target)) := by
  simp only [pipeline,found]
  rfl

/-- The same programs at another time, whatever files there are now; no arrival hangs on the calendar. -/
structure Again (s s' : Surroundings σ) : Prop where
  programs : s'.host.isProgram = s.host.isProgram
  world : ∃ calendar, s'.world = s.world.dated calendar
  arrival : s'.arrival = s.arrival
  steady : s.arrival.Steady

section TwoFiles

variable {s' : Surroundings σ} (again : s.Again s') {path path' : String} {f f' : Pipeline}
  (found : Pipeline.ofFile s.host path = .ok f) (found' : Pipeline.ofFile s'.host path' = .ok f')
  (agree : settings.pipeline.Agree f f')

include again agree in
lemma pipelineRun_matches (projectId : UInt64) (target : String) (memory : σ) :
    (s.pipelineRun settings (settings.pipeline.apply (f.forTarget projectId target)) memory).Matches
      (s'.pipelineRun settings (settings.pipeline.apply (f'.forTarget projectId target)) memory) := by
  obtain ⟨calendar,world⟩ := again.world
  have registry : s'.registry settings = s.registry settings := by
    unfold Surroundings.registry
    rw [again.programs]
  unfold pipelineRun
  rw [registry,world,again.arrival]
  exact Engine.runPipeline_matches ⟨s.registry settings,s.world,s.arrival⟩ calendar (s.blind_registry settings)
    again.steady (agree.matches_apply projectId target) settings.pipeline.policy
    (agree.resolve_apply projectId target) 0 memory

include again found found' agree

/-- Two runs with files that agree match. -/
theorem runPipeline_matches (projectId : UInt64) (target : String) (memory : σ) : Run.Matches (s.registry settings)
    (s.runPipeline settings ⟨.file path,projectId,target⟩ memory)
    (s'.runPipeline settings ⟨.file path',projectId,target⟩ memory) := by
  have same := pipelineRun_matches again agree projectId target memory
  have bound := pipeline_of_file found settings projectId target
  have bound' := pipeline_of_file found' settings projectId target
  have name := (agree.matches_apply projectId target).name
  obtain ⟨events,warnings,remembered⟩ := runPipeline_shows bound memory
  obtain ⟨events',warnings',remembered'⟩ := runPipeline_shows bound' memory
  obtain ⟨code,message,shown,shown',results⟩ :=
    (tellsPipeline bound memory).alike (name ▸ tellsPipeline bound' memory) same.verdict
  refine ⟨code,message,⟨_,_,shown,shown',results⟩,?_,?_,?_⟩
  · rw [events,events']
    exact Registry.jobs_eq (s.blind_registry settings) same.events
  · rw [warnings,warnings',same.warnings]
  · rw [remembered,remembered',same.memory]

end TwoFiles

/-- Whatever project, target, timeout and policy two pipeline files name, the program does the same with both if they
agree in what the settings leave to them: it starts the same jobs at the same moments, so that all that programs
remember is the same, it prints results that differ only in their times, and it ends alike. -/
theorem pipeline_file_decides {s s' : Surroundings σ} (again : s.Again s') {words words' : List String}
    {i i' : Invocation} {settings : Settings} {path path' target : String} {projectId : UInt64} {f f' : Pipeline}
    (read : readArguments s.host.settingsFile words = .ok i)
    (read' : readArguments s'.host.settingsFile words' = .ok i')
    (asked : i.task = .pipeline ⟨.file path,projectId,target⟩)
    (asked' : i'.task = .pipeline ⟨.file path',projectId,target⟩)
    (loaded : Settings.load s.host i.settingsFile = .ok settings)
    (loaded' : Settings.load s'.host i'.settingsFile = .ok settings)
    (found : Pipeline.ofFile s.host path = .ok f) (found' : Pipeline.ofFile s'.host path' = .ok f')
    (agree : settings.pipeline.Agree f f') (memory : σ) :
    ((s.process words memory).1 = (s.run i memory).outcome ∧ (s.process words memory).2 = (s.run i memory).memory) ∧
    ((s'.process words' memory).1 = (s'.run i' memory).outcome ∧
      (s'.process words' memory).2 = (s'.run i' memory).memory) ∧
    Run.Matches (s.registry settings) (s.run i memory) (s'.run i' memory) := by
  have ran : s.run i memory = s.runPipeline settings ⟨.file path,projectId,target⟩ memory := by
    rw [run_eq loaded,asked,runTask]
  have ran' : s'.run i' memory = s'.runPipeline settings ⟨.file path',projectId,target⟩ memory := by
    rw [run_eq loaded',asked',runTask]
  refine ⟨process_run read memory,process_run read' memory,?_⟩
  rw [ran,ran']
  exact runPipeline_matches again found found' agree projectId target memory

section Noting

/-- Two files for one stage; they differ in their notation, in the order of the options and in all that is not left to
them. -/
def firstFile : String := "\x7b\"name\":\"audit\",\"project_id\":7,\"target\":\"x.org\",\"timeout\":\"5s\",
  \"stages\":[\x7b\"name\":\"web\",\"scanner_names\":[\"httpx\"],\"options\":\x7b\"a\":\"1\",\"b\":\"2\"\x7d\x7d]\x7d"

def secondFile : String :=
  "name=\"audit\"\n[[stages]]\nname=\"web\"\nscanner_names=[\"httpx\"]\noptions=\x7bb=\"2\",a=\"1\"\x7d\n"

/-- What these files hold. -/
def web (projectId : UInt64) (target : String) (options : List (String × String)) (timeout : Option Duration) :
    Pipeline where
  name := "audit"
  projectId := projectId
  target := target
  stages := [{ name := "web", scanners := ["httpx"], options := .ofList options }]
  timeout := timeout

/-- A machine with these files, on which each start of a program is noted down. -/
def noting (calendar : Nat → Moment) : Surroundings (List (Nat × Command)) where
  host := {
    read := fun path => if path = "a.json" then .ok (firstFile.toList.map fun c => c.toNat.toUInt8)
      else if path = "b.toml" then .ok (secondFile.toList.map fun c => c.toNat.toUInt8) else .error .missing
    isProgram := fun _ => true
    home := none
    settingsFile := none }
  world := {
    start := fun now command noted => (.ends 1 (.code 0) [] [],noted ++ [(now,command)])
    addresses := fun _ => []
    calendar := calendar
    cancelAt := none }
  arrival := .byFinish _

lemma noting_again (calendar calendar' : Nat → Moment) : (noting calendar).Again (noting calendar') :=
  ⟨rfl,⟨calendar',rfl⟩,rfl,Arrival.steady_byFinish⟩

lemma eq_ok_of_toOption {ε α : Type} {x : Except ε α} {a : α} (h : x.toOption = some a) : x = .ok a := by
  cases x with
  | error => cases h
  | ok b => exact congrArg Except.ok (Option.some.inj h)

lemma first_read : Pipeline.ofFile (noting World.still.calendar).host "a.json" =
    .ok (web 7 "x.org" [("a","1"),("b","2")] (some ⟨5000000000,by decide⟩)) :=
  eq_ok_of_toOption (by decide +kernel)

lemma second_read : Pipeline.ofFile (noting default).host "b.toml" = .ok (web 0 "" [("b","2"),("a","1")] none) :=
  eq_ok_of_toOption (by decide +kernel)

lemma web_agree (projectId projectId' : UInt64) (target target' : String) (timeout timeout' : Option Duration) :
    PipelineSettings.Agree {} (web projectId target [("a","1"),("b","2")] timeout)
      (web projectId' target' [("b","2"),("a","1")] timeout') := by
  have options (key : String) : (Dict.ofList [("a","1"),("b","2")]).get? key =
      (Dict.ofList [("b","2"),("a","1")]).get? key := by
    simp only [Dict.ofList,List.foldl_cons,List.foldl_nil,Dict.get?_insert]
    by_cases a : "a" = key
    · subst a
      rfl
    · simp only [if_neg a]
  exact ⟨rfl,.cons ⟨rfl,rfl,options,rfl,rfl⟩ .nil,fun _ => rfl,nofun⟩

/-- Two runs on different days note down the same start of a program. -/
theorem pipeline_file_decides_noting : ∃ command : Command, command.program = "httpx" ∧
    ((noting World.still.calendar).process ["pipeline","--file","a.json","-p","1","-t","example.com"] []).2 =
      [(0,command)] ∧
    ((noting default).process ["pipeline","--file","b.toml","-p","1","-t","example.com"] []).2 = [(0,command)] := by
  have read : readArguments none ["pipeline","--file","a.json","-p","1","-t","example.com"] =
      .ok { task := .pipeline ⟨.file "a.json",1,"example.com"⟩ } := rfl
  have read' : readArguments none ["pipeline","--file","b.toml","-p","1","-t","example.com"] =
      .ok { task := .pipeline ⟨.file "b.toml",1,"example.com"⟩ } := rfl
  have loaded (calendar : Nat → Moment) : Settings.load (noting calendar).host none = .ok {} := rfl
  obtain ⟨⟨_,noted⟩,⟨_,noted'⟩,same⟩ := pipeline_file_decides (noting_again World.still.calendar default) read read' rfl
    rfl (loaded _) (loaded _) first_read second_read (web_agree ..) []
  have ran : ((noting World.still.calendar).run { task := .pipeline ⟨.file "a.json",1,"example.com"⟩ } []).memory =
      ((noting World.still.calendar).pipelineRun {} _ []).memory :=
    (runPipeline_shows (pipeline_of_file first_read {} 1 "example.com") []).2.2
  refine ⟨_,?_,noted.trans (ran.trans rfl),noted'.trans (same.memory.symm.trans (ran.trans rfl))⟩
  rfl

end Noting

end Surroundings
end Cli
end Recon
