import Recon.Proofs.Engine.Decision
import Recon.Proofs.Engine.Started
import Recon.Tool.Gobuster

/-! A search for paths starts its program once for each URL. A run that fails costs its own paths and gives a warning;
the other runs and what they find are as they are without it. -/
namespace Recon

variable {σ : Type}

namespace Tool

variable (t : Tool)

/-- Texts that a program can be started with. -/
def Passable (texts : List String) : Prop := ∀ text ∈ texts, '\x00' ∉ text.toList

instance (texts : List String) : Decidable (Passable texts) := inferInstanceAs (Decidable (∀ text ∈ texts, _))

/-- The output of a program that ends well and in time, or what is wrong. -/
def outcome (limit : Duration) : Course → Except ScanError String
  | .cannotStart reason => .error (.scanFailed t.name ("unable to start " ++ t.program ++ ": " ++ reason))
  | .hangs => .error (.scanTimeout t.name limit)
  | .ends after exit stdout stderr =>
    if limit.nanos < after then .error (.scanTimeout t.name limit)
    else if exit = .code 0 then .ok (String.ofList (Text.Utf8.decodeLossy stdout))
    else .error (.scanFailed t.name (exit.message ++ " " ++ String.ofList (Text.trim (Text.Utf8.decodeLossy stderr))))

lemma output_reportOf (limit : Duration) (now : Nat) (course : Course) :
    t.output (Job.reportOf limit now course).1 = t.outcome limit course := by
  cases course with
  | cannotStart | hangs => rfl
  | ends after exit stdout stderr =>
    simp only [Job.reportOf,outcome,← Nat.not_le,ite_not]
    split
    · simp only [output,Exit.isSuccess,beq_iff_eq]
      rfl
    · rfl

/-- What is started, and the course that it takes; nothing if the program cannot be given its arguments. -/
def started? (args : List String) (stdin : Option String) (course : Course) : Option (Command × Course) :=
  if Passable (t.program :: args) then some (⟨t.program,args,stdin⟩,course) else none

def refusal : Course := .cannotStart "nul byte found in provided data"

/-- Left to itself, a job that runs a program goes on with the outcome. -/
theorem run_execute (w : World σ) (args : List String) (stdin : Option String) (timeout : Duration)
    (next : Except ScanError String → Job) (now : Nat) (memory : σ × List (Command × Course)) :
    ∃ course later remembered, (t.started? args stdin course = none → course = refusal) ∧
      (t.execute args stdin timeout next).run w.recorded .unbounded now memory =
        (next (t.outcome (t.limit timeout) course)).run w.recorded .unbounded later
          (remembered,memory.2 ++ (t.started? args stdin course).toList) := by
  have passable_iff : (holdsNull t.program || args.any holdsNull) = true ↔ ¬ Passable (t.program :: args) := by
    rw [Passable,List.forall_mem_cons,Bool.or_eq_true,not_and_or,not_not]
    simp [holdsNull]
  unfold execute
  by_cases passable : Passable (t.program :: args)
  · rcases hs : w.start now ⟨t.program,args,stdin⟩ memory.1 with ⟨course,remembered⟩
    rcases hr : Job.reportOf (t.limit timeout) now course with ⟨report,later,yields⟩
    have told : t.output report = t.outcome (t.limit timeout) course := by
      rw [← t.output_reportOf _ now,hr]
    have start : t.started? args stdin course = some (⟨t.program,args,stdin⟩,course) := if_pos passable
    refine ⟨course,later,remembered,fun unstarted => absurd (start.symm.trans unstarted) nofun,?_⟩
    rw [if_neg fun null => passable_iff.mp null passable,Job.run_launch_unbounded (World.start_recorded hs) hr,told,
      start]
    rfl
  · have start : t.started? args stdin refusal = none := if_neg passable
    refine ⟨refusal,now,memory.1,fun _ => rfl,?_⟩
    rw [if_pos (passable_iff.mpr passable),start,Option.toList_none,List.append_nil]
    rfl

end Tool

namespace Gobuster

/-- A run against a URL, with the course that its program takes. -/
structure Trial where
  url : String
  course : Course

namespace Trial

variable (program : String) (c : ScanConfig) (t : Trial)

/-- The command that is started, with its course. -/
def started? : Option (Command × Course) := (tool program).started? (Settings.ofConfig t.url c).args none t.course

def outcome : Except ScanError String := (tool program).outcome ((tool program).limit c.timeout) t.course

def paths : List WebPath :=
  match t.outcome program c with
  | .ok output => readReport t.url output
  | .error _ => []

def warning? : Option Warning :=
  match t.outcome program c with
  | .ok _ => none
  | .error e => some (.skippingTarget t.url e)

variable {program c}

lemma started?_eq_some (passable : Tool.Passable (program :: (Settings.ofConfig t.url c).args)) :
    t.started? program c = some (⟨program,(Settings.ofConfig t.url c).args,none⟩,t.course) := if_pos passable

/-- If everything can be passed on, the runs are told by the URLs and by the courses of what is started. -/
theorem zipWith_started {trials : List Trial}
    (passable : ∀ url ∈ trials.map (·.url), Tool.Passable (program :: (Settings.ofConfig url c).args)) :
    List.zipWith Trial.mk (trials.map (·.url)) ((trials.filterMap (·.started? program c)).map (·.2)) = trials := by
  induction trials with
  | nil => rfl
  | cons t trials ih =>
    obtain ⟨first,others⟩ := List.forall_mem_cons.mp passable
    rw [List.filterMap_cons_some (t.started?_eq_some first),List.map_cons,List.map_cons,List.zipWith_cons_cons,
      ih others]

end Trial

variable (w : World σ) (program : String) (c : ScanConfig)

/-- How a search goes on after the run against `url`. -/
def goOn (found : List WebPath) (url : String) (urls : List String) : Except ScanError String → Job
  | .ok output => scanAll program c (found ++ readReport url output) urls
  | .error e => .warn (.skippingTarget url e) (scanAll program c found urls)

lemma scanAll_cons (found : List WebPath) (url : String) (urls : List String) :
    scanAll program c found (url :: urls) =
      (tool program).execute (Settings.ofConfig url c).args none c.timeout (goOn program c found url urls) := by
  rw [scanAll]
  exact congrArg _ (funext fun outcome => by cases outcome <;> rfl)

lemma run_goOn (l : Limits) (t : Trial) (found : List WebPath) (urls : List String) (now : Nat) (memory : σ)
    {r : JobRun σ} (rest : (scanAll program c (found ++ t.paths program c) urls).run w l now memory = r) :
    (goOn program c found t.url urls (t.outcome program c)).run w l now memory =
      { r with warnings := (t.warning? program c).toList ++ r.warnings } := by
  subst rest
  rw [Trial.paths,Trial.warning?]
  cases t.outcome program c with
  | ok output => rfl
  | error e =>
    rw [List.append_nil]
    rfl

/-- A search that is left to itself, after the paths already found and the commands already noted. -/
theorem run_scanAll (found : List WebPath) (urls : List String) (now : Nat) (memory : σ × List (Command × Course)) :
    ∃ (trials : List Trial) (finish : Nat) (remembered : σ), trials.map (·.url) = urls ∧
      (∀ t ∈ trials, t.started? program c = none → t.course = Tool.refusal) ∧
      (scanAll program c found urls).run w.recorded .unbounded now memory =
        ⟨.finished (.webPaths (found ++ trials.flatMap (·.paths program c))),finish,
          trials.filterMap (·.warning? program c),remembered,memory.2 ++ trials.filterMap (·.started? program c)⟩ := by
  induction urls generalizing found now memory with
  | nil => exact ⟨[],now,memory.1,rfl,nofun,by simp [scanAll,Job.run]⟩
  | cons url urls ih =>
    obtain ⟨course,later,_,refused,ran⟩ := (tool program).run_execute w (Settings.ofConfig url c).args none
      c.timeout (goOn program c found url urls) now memory
    let t : Trial := ⟨url,course⟩
    obtain ⟨trials,finish,remembered,named,refused',rest⟩ := ih (found ++ t.paths program c) later
      (_,memory.2 ++ (t.started? program c).toList)
    refine ⟨t :: trials,finish,remembered,by rw [List.map_cons,named],List.forall_mem_cons.mpr ⟨refused,refused'⟩,?_⟩
    rw [scanAll_cons,ran]
    refine (run_goOn w.recorded program c .unbounded t found urls later _ rest).trans ?_
    simp only [List.filterMap_eq_flatMap_toList,List.flatMap_cons,List.append_assoc]

/-- Left to itself, a search runs its program once for each URL, in order and with the arguments of that URL; only what
holds a null character is not passed on, which counts as a program that cannot be started. Whatever becomes of the runs,
the search finishes with the paths that those with an output report, in order, and gives a warning for each of the
others, in order. -/
theorem failures_isolated (now : Nat) (memory : σ) : ∃ trials : List Trial,
    trials.map (·.url) = targets c ∧
    (scan program c).started w .unbounded now memory = trials.filterMap (·.started? program c) ∧
    (∀ t ∈ trials, t.started? program c = none → t.course = Tool.refusal) ∧
    ((scan program c).run w .unbounded now memory).ending =
      .finished (.webPaths (trials.flatMap (·.paths program c))) ∧
    ((scan program c).run w .unbounded now memory).warnings = trials.filterMap (·.warning? program c) := by
  obtain ⟨trials,finish,remembered,urls,refused,ran⟩ := run_scanAll w program c [] (targets c) now (memory,[])
  have same := Job.run_recorded w .unbounded (scan program c) now (memory,[])
  refine ⟨trials,urls,?_,refused,?_,?_⟩
  · rw [Job.started,scan,ran]
    rfl
  · rw [← same,scan,ran]
    rfl
  · rw [← same,scan,ran]
    rfl

/-- The first program is killed, any later one reports a path. -/
def killedFirst : World Nat where
  start _ _ n := (if n = 0 then .ends 5 (.signal 9) [] [] else .ends 7 (.code 0) [47,97,10] [],n + 1)
  addresses _ := []
  calendar _ := default
  cancelAt := none

/-- What is found under the second scheme does not depend on the first. -/
theorem failures_isolated_killed :
    ((scan "gobuster" (ScanConfig.create 1 "a.b")).run killedFirst .unbounded 0 0).ending =
      .finished (.webPaths [⟨"https://a.b/a","/a",0,0,""⟩]) ∧
    ((scan "gobuster" (ScanConfig.create 1 "a.b")).run killedFirst .unbounded 0 0).warnings =
      [.skippingTarget "http://a.b" (.scanFailed "gobuster" "signal: 9 (SIGKILL) ")] := by
  obtain ⟨trials,urls,start,-,ending,warnings⟩ :=
    failures_isolated killedFirst "gobuster" (ScanConfig.create 1 "a.b") 0 0
  have two : trials.map (·.url) = ["http://a.b","https://a.b"] := urls
  have passable : ∀ url ∈ trials.map (·.url),
      Tool.Passable ("gobuster" :: (Settings.ofConfig url (ScanConfig.create 1 "a.b")).args) := by
    rw [two]
    decide
  have known := Trial.zipWith_started passable
  rw [two,← start] at known
  rw [ending,warnings,← known]
  exact ⟨rfl,rfl⟩

end Gobuster
end Recon
