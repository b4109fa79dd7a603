import Recon.Proofs.Engine.Crash
import Recon.Proofs.Engine.Fate
import Recon.Proofs.Engine.Registration

/-! How a scan is decided. What can come between a configuration and its payload is asked for in one order: whether
the scanner can be reached, whether it agrees, whether the caller gives up, whether time runs out, how the job ends and
whether its payload fits. What would have become of a job is said by the same job left to itself. -/
namespace Recon

variable {σ : Type}

/-- Nothing stops a job. -/
def Limits.unbounded : Limits := ⟨none,none⟩

lemma Limits.wait_unbounded (yields : Bool) (t : Nat) : unbounded.wait yields t = .reached := rfl

/-- What is waited for comes before the deadline of the same moment, unless it is a limit itself. -/
theorem Limits.andThen_deadline (d : Nat) (yields : Bool) (t : Nat) (memory : σ) (next : JobRun σ) :
    ((⟨some d,none⟩ : Limits).wait yields t).andThen memory next =
      if d < t ∨ yields = true ∧ d = t then ⟨.timedOut,d,[],memory⟩ else next := by
  simp only [wait,Bool.or_eq_true,Bool.and_eq_true,decide_eq_true_eq,beq_iff_eq]
  split <;> rfl

namespace Job

/-- Left to itself, the job is not over when `d` is: it waits for a later moment, or at `d` for the limit of a
program. -/
def Outlasts (w : World σ) (d : Nat) : Job → Nat → σ → Prop
  | .finish _,_,_ | .fail _,_,_ | .crash,_,_ => False
  | .sleep nanos next,now,memory => d < now + nanos ∨ next.Outlasts w d (now + nanos) memory
  | .launch command limit next,now,memory =>
    let (course,memory) := w.start now command memory
    let (report,t,yields) := reportOf limit now course
    (t ≠ now ∧ (d < t ∨ yields = true ∧ d = t)) ∨ (next report).Outlasts w d t memory
  | .resolve hosts next,now,memory => (next (hosts.map w.addresses)).Outlasts w d now memory
  | .warn _ next,now,memory => next.Outlasts w d now memory

/-- What a job comes to in the time that it has: nothing if it outlasts it, and otherwise what it comes to without. -/
def InTime (w : World σ) (d : Nat) (j : Job) (now : Nat) (memory : σ) : Prop :=
  (j.Outlasts w d now memory ∧ (j.run w ⟨some d,none⟩ now memory).ending = .timedOut ∧
    (j.run w ⟨some d,none⟩ now memory).finish = d ∧ d ≤ (j.run w .unbounded now memory).finish) ∨
  (¬ j.Outlasts w d now memory ∧ j.run w ⟨some d,none⟩ now memory = j.run w .unbounded now memory ∧
    (j.run w .unbounded now memory).finish ≤ d)

section Waiting

variable (w : World σ) (nanos : Nat) (next : Job) (now : Nat) (memory : σ)

lemma run_sleep_unbounded : (sleep nanos next).run w .unbounded now memory =
    next.run w .unbounded (now + nanos) memory := run_sleep ..

lemma run_sleep_deadline (d : Nat) : (sleep nanos next).run w ⟨some d,none⟩ now memory =
    if d < now + nanos then ⟨.timedOut,d,[],memory⟩ else next.run w ⟨some d,none⟩ (now + nanos) memory := by
  simp only [run_sleep,Limits.andThen_deadline,Bool.false_eq_true,false_and,or_false]

end Waiting

section Launching

variable {w : World σ} {command : Command} {limit : Duration} {next : Report → Job} {now : Nat} {memory remembered : σ}
  {course : Course} {report : Report} {t : Nat} {yields : Bool}
  (started : w.start now command memory = (course,remembered))
  (reported : reportOf limit now course = (report,t,yields))

include started reported

lemma outlasts_launch (d : Nat) : (launch command limit next).Outlasts w d now memory ↔
    (t ≠ now ∧ (d < t ∨ yields = true ∧ d = t)) ∨ (next report).Outlasts w d t remembered := by
  simp only [Outlasts,started,reported]

lemma run_launch_unbounded : (launch command limit next).run w .unbounded now memory =
    (next report).run w .unbounded t remembered := by
  rw [run_launch w .unbounded command limit next started reported,Limits.wait_unbounded,Waited.andThen,ite_self]

lemma run_launch_deadline (d : Nat) : (launch command limit next).run w ⟨some d,none⟩ now memory =
    if t ≠ now ∧ (d < t ∨ yields = true ∧ d = t) then ⟨.timedOut,d,[],remembered⟩
    else (next report).run w ⟨some d,none⟩ t remembered := by
  rw [run_launch w _ command limit next started reported,Limits.andThen_deadline]
  by_cases atOnce : t = now
  · rw [if_pos atOnce,if_neg fun late => late.1 atOnce]
  · simp only [ne_eq,atOnce,not_false_eq_true,true_and,if_false]

end Launching

/-- A job that is left to itself ends by itself. -/
theorem ending_unbounded (w : World σ) (j : Job) (now : Nat) (memory : σ) :
    (∃ payload, (j.run w .unbounded now memory).ending = .finished payload) ∨
      (∃ error, (j.run w .unbounded now memory).ending = .failed error) ∨
      (j.run w .unbounded now memory).ending = .crashed := by
  induction j generalizing now memory with
  | finish payload => exact .inl ⟨payload,rfl⟩
  | fail error => exact .inr (.inl ⟨error,rfl⟩)
  | crash => exact .inr (.inr rfl)
  | sleep nanos next ih => exact ih ..
  | launch command limit next ih =>
    rcases hs : w.start now command memory with ⟨course,remembered⟩
    rcases hr : reportOf limit now course with ⟨report,t,yields⟩
    rw [run_launch_unbounded hs hr]
    exact ih ..
  | resolve hosts next ih => exact ih ..
  | warn warning next ih => exact ih ..

/-- Left to itself, a job takes its time. -/
theorem le_finish_unbounded (w : World σ) (j : Job) (now : Nat) (memory : σ) :
    now ≤ (j.run w .unbounded now memory).finish :=
  le_finish w .unbounded j memory nofun

lemma inTime_run (w : World σ) {d : Nat} (j : Job) {now : Nat} (memory : σ) (inTime : now ≤ d) :
    j.InTime w d now memory := by
  induction j generalizing now memory with
  | finish | fail | crash => exact .inr ⟨not_false,rfl,inTime⟩
  | sleep nanos next ih =>
    unfold InTime
    rw [run_sleep_deadline,run_sleep_unbounded,Outlasts]
    by_cases late : d < now + nanos
    · rw [if_pos late]
      exact .inl ⟨.inl late,rfl,rfl,Nat.le_trans (Nat.le_of_lt late) (le_finish_unbounded w next _ memory)⟩
    · rw [if_neg late,or_iff_right late]
      exact ih memory (Nat.le_of_not_lt late)
  | launch command limit next ih =>
    rcases hs : w.start now command memory with ⟨course,remembered⟩
    rcases hr : reportOf limit now course with ⟨report,t,yields⟩
    unfold InTime
    rw [run_launch_deadline hs hr,run_launch_unbounded hs hr,outlasts_launch hs hr]
    by_cases late : t ≠ now ∧ (d < t ∨ yields = true ∧ d = t)
    · have reached := le_finish_unbounded w (next report) t remembered
      rw [if_pos late]
      exact .inl ⟨.inl late,rfl,rfl,by omega⟩
    · rw [if_neg late,or_iff_right late]
      exact ih report remembered (by omega)
  | resolve hosts next ih => exact ih _ memory inTime
  | warn warning next ih =>
    obtain ⟨outlasts,stopped,finish,reached⟩ | ⟨inside,same,finish⟩ := ih memory inTime
    · exact .inl ⟨outlasts,stopped,finish,reached⟩
    · exact .inr ⟨inside,by simp only [run,same],finish⟩

end Job

namespace Scanner

/-- The job of a scan, left to itself. -/
def undisturbed (s : Scanner) (w : World σ) (config : ScanConfig) (now : Nat) (memory : σ) : JobRun σ :=
  (s.scan config).run w .unbounded now memory

/-- Nobody gives up before the job is over, and it is over in time. -/
structure Undisturbed (s : Scanner) (w : World σ) (config : ScanConfig) (now : Nat) (memory : σ) : Prop where
  wanted : ∀ c, w.cancelAt = some c → (s.undisturbed w config now memory).finish < c
  inTime : ∀ d, config.deadline now = some d → ¬ (s.scan config).Outlasts w d now memory

/-- Whether a scanner that agreed is started, and what comes of it: the first that applies. -/
inductive ComesTo (s : Scanner) (w : World σ) (config : ScanConfig) (now : Nat) (memory : σ) :
    Bool → Except ScanError Payload → Prop
  | givenUpBefore {c : Nat} (given : w.cancelAt = some c) (late : c ≤ now) :
      ComesTo s w config now memory false (.error (.scanCancelled s.name))
  | givenUp {c : Nat} (given : w.cancelAt = some c) (ahead : now < c)
      (busy : c ≤ (s.undisturbed w config now memory).finish)
      (inTime : ∀ d, config.deadline now = some d → c ≤ d) :
      ComesTo s w config now memory true (.error (.scanCancelled s.name))
  | timedOut {d : Nat} (limit : config.deadline now = some d) (outlasts : (s.scan config).Outlasts w d now memory)
      (wanted : ∀ c, w.cancelAt = some c → d < c) :
      ComesTo s w config now memory true (.error (.scanTimeout s.name config.timeout))
  | panicked (alone : s.Undisturbed w config now memory)
      (ending : (s.undisturbed w config now memory).ending = .crashed) :
      ComesTo s w config now memory true (.error (.scanFailed s.name "scanner panicked"))
  | failed {error : ScanError} (alone : s.Undisturbed w config now memory)
      (ending : (s.undisturbed w config now memory).ending = .failed error) :
      ComesTo s w config now memory true (.error error)
  | unfit {payload : Payload} (alone : s.Undisturbed w config now memory)
      (ending : (s.undisturbed w config now memory).ending = .finished payload)
      (unfit : s.category.accepts payload = false) :
      ComesTo s w config now memory true (.error (.invalidScanResult s.name
        (payload.kind.name ++ " data from a " ++ s.category.name ++ " scanner")))
  | completed {payload : Payload} (alone : s.Undisturbed w config now memory)
      (ending : (s.undisturbed w config now memory).ending = .finished payload)
      (fits : s.category.accepts payload = true) :
      ComesTo s w config now memory true (.ok payload)

variable (s : Scanner) (w : World σ) (config : ScanConfig) (now : Nat) (memory : σ)

/-- The job within its deadline alone. -/
def timed : JobRun σ := (s.scan config).run w ⟨config.deadline now,none⟩ now memory

/-- A job is stopped at its deadline or goes as if there was none. -/
theorem timed_cases :
    (∃ d, config.deadline now = some d ∧ (s.scan config).Outlasts w d now memory ∧
      (s.timed w config now memory).ending = .timedOut ∧ (s.timed w config now memory).finish = d ∧
      d ≤ (s.undisturbed w config now memory).finish) ∨
    ((∀ d, config.deadline now = some d → ¬ (s.scan config).Outlasts w d now memory ∧
        (s.undisturbed w config now memory).finish ≤ d) ∧
      s.timed w config now memory = s.undisturbed w config now memory) := by
  unfold timed undisturbed
  cases hd : config.deadline now with
  | none => exact .inr ⟨nofun,rfl⟩
  | some d =>
    obtain ⟨outlasts,stopped,finish,reached⟩ | ⟨inside,same,finish⟩ :=
      (s.scan config).inTime_run w memory (le_deadline config now hd)
    · exact .inl ⟨d,rfl,outlasts,stopped,finish,reached⟩
    · refine .inr ⟨?_,same⟩
      rintro _ ⟨⟩
      exact ⟨inside,finish⟩

variable {s w config now memory}

lemma runJob_of_wanted (wanted : ∀ c, w.cancelAt = some c → (s.timed w config now memory).finish < c) :
    s.runJob w config now memory = (s.timed w config now memory,[.entered s.name config]) := by
  cases given : w.cancelAt with
  | none => exact s.runJob_of_uncancelled w config now memory given
  | some c =>
    have before := wanted c given
    have ahead : now < c := Nat.lt_of_le_of_lt
      (Job.le_finish w ⟨config.deadline now,none⟩ (s.scan config) memory fun d hd => le_deadline config now hd) before
    obtain ⟨same,_⟩ | ⟨_,_,whole⟩ := Job.cutAt_run w (l := ⟨config.deadline now,some c⟩) rfl (s.scan config) memory
      (fun d hd => le_deadline config now hd) ahead
    · rw [s.runJob_ahead w config now memory given ahead,same]
      rfl
    · exact absurd whole (Nat.not_le.mpr before)

lemma runJob_of_givenUp {c : Nat} (given : w.cancelAt = some c) (ahead : now < c)
    (busy : c ≤ (s.timed w config now memory).finish) :
    (s.runJob w config now memory).1.ending = .cancelled ∧
      (s.runJob w config now memory).2 = [.entered s.name config] := by
  rw [s.runJob_ahead w config now memory given ahead]
  obtain ⟨same,before⟩ | ⟨ending,_,_⟩ := Job.cutAt_run w (l := ⟨config.deadline now,some c⟩) rfl (s.scan config) memory
    (fun d hd => le_deadline config now hd) ahead
  · rw [same] at before
    exact absurd busy (Nat.not_le.mpr before)
  · exact ⟨ending,rfl⟩

/-- Nothing stops a job that is undisturbed. -/
theorem Undisturbed.runJob (alone : s.Undisturbed w config now memory) :
    s.runJob w config now memory = (s.undisturbed w config now memory,[.entered s.name config]) := by
  obtain ⟨d,hd,outlasts,_⟩ | ⟨_,same⟩ := s.timed_cases w config now memory
  · exact absurd outlasts (alone.inTime d hd)
  · rw [← same]
    exact runJob_of_wanted (by rw [same]; exact alone.wanted)

/-- One of these applies to every job. -/
theorem exists_comesTo (s : Scanner) (w : World σ) (config : ScanConfig) (now : Nat) (memory : σ) :
    ∃ started outcome, s.ComesTo w config now memory started outcome := by
  by_cases wanted : ∀ c, w.cancelAt = some c → (s.timed w config now memory).finish < c
  · obtain ⟨d,hd,outlasts,_,finish,_⟩ | ⟨inside,same⟩ := s.timed_cases w config now memory
    · exact ⟨_,_,.timedOut hd outlasts fun c given => finish ▸ wanted c given⟩
    · rw [same] at wanted
      have alone : s.Undisturbed w config now memory := ⟨wanted,fun d hd => (inside d hd).1⟩
      obtain ⟨payload,ending⟩ | ⟨error,ending⟩ | ending := (s.scan config).ending_unbounded w now memory
      · cases fits : s.category.accepts payload with
        | true => exact ⟨_,_,.completed alone ending fits⟩
        | false => exact ⟨_,_,.unfit alone ending fits⟩
      · exact ⟨_,_,.failed alone ending⟩
      · exact ⟨_,_,.panicked alone ending⟩
  · push Not at wanted
    obtain ⟨c,given,busy⟩ := wanted
    by_cases late : c ≤ now
    · exact ⟨_,_,.givenUpBefore given late⟩
    · have ahead : now < c := Nat.lt_of_not_le late
      obtain ⟨d,hd,_,_,finish,reached⟩ | ⟨inside,same⟩ := s.timed_cases w config now memory
      · rw [finish] at busy
        refine ⟨_,_,.givenUp given ahead (Nat.le_trans busy reached) fun d' hd' => ?_⟩
        rw [hd] at hd'
        exact Option.some.inj hd' ▸ busy
      · rw [same] at busy
        exact ⟨_,_,.givenUp given ahead busy fun d hd => Nat.le_trans busy (inside d hd).2⟩

/-- The one that applies is what the job shows. -/
theorem ComesTo.runJob {started : Bool} {outcome : Except ScanError Payload}
    (h : s.ComesTo w config now memory started outcome) :
    (s.runJob w config now memory).1.ending.outcome s.name s.category config.timeout = outcome ∧
      (s.runJob w config now memory).2 = if started then [.entered s.name config] else [] := by
  cases h with
  | givenUpBefore given late =>
    rw [s.runJob_late w config now memory given late]
    exact ⟨rfl,rfl⟩
  | @givenUp c given ahead busy inTime =>
    have busy : c ≤ (s.timed w config now memory).finish := by
      obtain ⟨d,hd,_,_,finish,_⟩ | ⟨_,same⟩ := s.timed_cases w config now memory
      · rw [finish]
        exact inTime d hd
      · rw [same]
        exact busy
    obtain ⟨ending,events⟩ := runJob_of_givenUp given ahead busy
    rw [ending,events]
    exact ⟨rfl,rfl⟩
  | @timedOut d limit outlasts wanted =>
    obtain ⟨d',hd,_,stopped,finish,_⟩ | ⟨inside,_⟩ := s.timed_cases w config now memory
    · obtain rfl : d = d' := Option.some.inj (limit.symm.trans hd)
      rw [runJob_of_wanted fun c given => finish.symm ▸ wanted c given,stopped]
      exact ⟨rfl,rfl⟩
    · exact absurd outlasts (inside d limit).1
  | panicked alone ending | failed alone ending =>
    rw [alone.runJob,ending]
    exact ⟨rfl,rfl⟩
  | unfit alone ending unfit =>
    rw [alone.runJob,ending]
    exact ⟨if_neg (by rw [unfit]; exact Bool.false_ne_true),rfl⟩
  | completed alone ending fits =>
    rw [alone.runJob,ending]
    exact ⟨if_pos fits,rfl⟩

/-- Without a timeout no job runs out of time. -/
theorem ending_ne_timedOut (unlimited : config.timeout.isZero = true) :
    (s.runJob w config now memory).1.ending ≠ .timedOut := by
  have same : s.timed w config now memory = s.undisturbed w config now memory := by
    simp only [timed,undisturbed,ScanConfig.deadline,unlimited,if_true,Limits.unbounded]
  have alone : (s.undisturbed w config now memory).ending ≠ .timedOut := by
    obtain ⟨_,ending⟩ | ⟨_,ending⟩ | ending := (s.scan config).ending_unbounded w now memory
    all_goals
      unfold undisturbed
      rw [ending]
      simp
  by_cases wanted : ∀ c, w.cancelAt = some c → (s.timed w config now memory).finish < c
  · rw [runJob_of_wanted wanted,same]
    exact alone
  · push Not at wanted
    obtain ⟨c,given,busy⟩ := wanted
    by_cases late : c ≤ now
    · rw [s.runJob_late w config now memory given late]
      simp
    · rw [(runJob_of_givenUp given (Nat.lt_of_not_le late) busy).1]
      simp

lemma ComesTo.unique {started started' : Bool} {outcome outcome' : Except ScanError Payload}
    (h : s.ComesTo w config now memory started outcome) (h' : s.ComesTo w config now memory started' outcome') :
    started = started' ∧ outcome = outcome' := by
  obtain ⟨came,events⟩ := h.runJob
  obtain ⟨came',events'⟩ := h'.runJob
  refine ⟨?_,came.symm.trans came'⟩
  rw [events] at events'
  cases started <;> cases started' <;> first | rfl | cases events'

end Scanner

/-- What a scan comes to. -/
inductive Decision where
  /-- Nobody accepted the configuration. -/
  | refused (error : ScanError)
  /-- The scanner crashed over the configuration. -/
  | upset (text : String)
  /-- An attempt was made with `s`. -/
  | attempted (s : Scanner) (started : Bool) (outcome : Except ScanError Payload)

/-- What the caller sees of it: the verdict and which scanners were started. An attempt leaves a result on its way
out, whatever comes of it. -/
def Decision.Shows (config : ScanConfig) (a : Attempt σ) : Decision → Prop
  | .refused error => a.verdict = .failed error none ∧ entered a.events = []
  | .upset text => a.verdict = .crashed text ∧ entered a.events = []
  | .attempted s started outcome =>
    (∃ timing, a.verdict = match outcome with
      | .ok payload => .completed (.completed s.name s.category config.target timing payload)
      | .error e => .failed e (some (.unsuccessful s.name s.category config.target timing e))) ∧
    entered a.events = if started then [(s.name,config)] else []

namespace Registry

variable (r : Registry) (w : World σ) (config : ScanConfig) (now : Nat) (memory : σ)

/-- How a scan is decided: the first that applies. -/
inductive Decides : Decision → Prop
  | noTool (unnamed : config.tool = none) : Decides (.refused .noToolSpecified)
  | notFound {name : String} (named : config.tool = some name) (unregistered : name ∉ r.names) :
      Decides (.refused (.scannerNotFound name))
  | notAvailable {s : Scanner} (named : config.tool = some s.name) (registered : s ∈ r.scanners)
      (missing : s.available = false) : Decides (.refused (.scannerNotAvailable s.name))
  | upset {s : Scanner} {text : String} (reached : r.select config = .ok s)
      (crashed : s.verify config = .crashed text) : Decides (.upset text)
  | refused {s : Scanner} {error : ScanError} (reached : r.select config = .ok s)
      (refused : s.verify config = .refused error) : Decides (.refused error)
  | attempted {s : Scanner} {started : Bool} {outcome : Except ScanError Payload} (reached : r.select config = .ok s)
      (accepted : s.verify config = .accepted) (comesTo : s.ComesTo w config now memory started outcome) :
      Decides (.attempted s started outcome)

lemma exists_decides : ∃ decision, r.Decides w config now memory decision := by
  cases hs : r.select config with
  | error error =>
    unfold select at hs
    cases ht : config.tool with
    | none => exact ⟨_,.noTool ht⟩
    | some name =>
      obtain ⟨unregistered,_⟩ | ⟨s,registered,rfl,⟨_,found⟩ | ⟨missing,_⟩⟩ := r.get_cases name
      · exact ⟨_,.notFound ht unregistered⟩
      · simp only [ht,found] at hs
        cases hs
      · exact ⟨_,.notAvailable ht registered missing⟩
  | ok s =>
    cases hv : s.verify config with
    | crashed text => exact ⟨_,.upset hs hv⟩
    | refused error => exact ⟨_,.refused hs hv⟩
    | accepted =>
      obtain ⟨started,outcome,comesTo⟩ := s.exists_comesTo w config now memory
      exact ⟨_,.attempted hs hv comesTo⟩

variable {r w config now memory}

lemma entered_scan {s : Scanner} (hs : r.select config = .ok s) (hv : s.verify config = .accepted) :
    entered (r.scan w config now memory).events = entered (s.runJob w config now memory).2 := by
  rw [scan_eq_of_accepted w now memory hs hv,← s.attempt_events w config now memory]
  rfl

/-- A scan that does not reach a scanner ends with the error of the look-up. -/
theorem scan_of_unreached {error : ScanError} (hs : r.select config = .error error) :
    (Decision.refused error).Shows config (r.scan w config now memory) := by
  obtain ⟨_,hs',h⟩ | ⟨_,hs',_⟩ := r.scan_cases w config now memory
  · rw [hs] at hs'
    cases hs'
    rw [h]
    exact ⟨rfl,rfl⟩
  · rw [hs] at hs'
    cases hs'

lemma select_of_unnamed (unnamed : config.tool = none) : r.select config = .error .noToolSpecified := by
  simp only [select,unnamed]

lemma select_of_unregistered {name : String} (named : config.tool = some name) (unregistered : name ∉ r.names) :
    r.select config = .error (.scannerNotFound name) := by
  simp only [select,named,get,find?_eq_none_iff.mpr unregistered]

lemma select_of_missing {s : Scanner} (named : config.tool = some s.name) (registered : s ∈ r.scanners)
    (missing : s.available = false) : r.select config = .error (.scannerNotAvailable s.name) := by
  simp [select,named,get,find?_eq_some_iff.mpr ⟨registered,rfl⟩,missing]

/-- A scanner that does not agree decides alone. -/
theorem scan_of_reached {s : Scanner} (hs : r.select config = .ok s) :
    (∀ text, s.verify config = .crashed text → (Decision.upset text).Shows config (r.scan w config now memory)) ∧
    ∀ error, s.verify config = .refused error → (Decision.refused error).Shows config (r.scan w config now memory) := by
  obtain ⟨_,hs',_⟩ | ⟨t,hs',hv⟩ := r.scan_cases w config now memory
  · rw [hs] at hs'
    cases hs'
  rw [hs] at hs'
  cases hs'
  obtain ⟨_,hv,h⟩ | ⟨_,hv,h⟩ | ⟨hv,_⟩ := hv
  · rw [hv,h]
    refine ⟨?_,nofun⟩
    rintro _ ⟨⟩
    exact ⟨rfl,rfl⟩
  · rw [hv,h]
    refine ⟨nofun,?_⟩
    rintro _ ⟨⟩
    exact ⟨rfl,rfl⟩
  · rw [hv]
    exact ⟨nofun,nofun⟩

/-- An attempt shows what the job comes to. -/
theorem scan_of_comesTo {s : Scanner} {started : Bool} {outcome : Except ScanError Payload}
    (hs : r.select config = .ok s) (hv : s.verify config = .accepted)
    (comesTo : s.ComesTo w config now memory started outcome) :
    (Decision.attempted s started outcome).Shows config (r.scan w config now memory) := by
  obtain ⟨came,events⟩ := comesTo.runJob
  constructor
  · rw [scan_of_accepted hs hv]
    unfold Scanner.attempt
    simp only [came]
    cases outcome with
    | ok payload => exact ⟨_,rfl⟩
    | error error => exact ⟨_,rfl⟩
  · rw [entered_scan hs hv,events]
    cases started <;> rfl

lemma Decides.shows {decision : Decision} (h : r.Decides w config now memory decision) :
    decision.Shows config (r.scan w config now memory) := by
  cases h with
  | noTool unnamed => exact scan_of_unreached (select_of_unnamed unnamed)
  | notFound named unregistered => exact scan_of_unreached (select_of_unregistered named unregistered)
  | notAvailable named registered missing => exact scan_of_unreached (select_of_missing named registered missing)
  | upset reached crashed => exact (scan_of_reached reached).1 _ crashed
  | refused reached refused => exact (scan_of_reached reached).2 _ refused
  | attempted reached accepted comesTo => exact scan_of_comesTo reached accepted comesTo

/-- What decides is the look-up if it fails, and then the scanner. -/
theorem Decides.reaches {decision : Decision} (h : r.Decides w config now memory decision) :
    (∃ error, r.select config = .error error ∧ decision = .refused error) ∨
    ∃ s, r.select config = .ok s ∧
      ((∃ text, s.verify config = .crashed text ∧ decision = .upset text) ∨
      (∃ error, s.verify config = .refused error ∧ decision = .refused error) ∨
      (s.verify config = .accepted ∧ ∃ started outcome, s.ComesTo w config now memory started outcome ∧
        decision = .attempted s started outcome)) := by
  cases h with
  | noTool unnamed => exact .inl ⟨_,select_of_unnamed unnamed,rfl⟩
  | notFound named unregistered => exact .inl ⟨_,select_of_unregistered named unregistered,rfl⟩
  | notAvailable named registered missing => exact .inl ⟨_,select_of_missing named registered missing,rfl⟩
  | upset reached crashed => exact .inr ⟨_,reached,.inl ⟨_,crashed,rfl⟩⟩
  | refused reached refused => exact .inr ⟨_,reached,.inr (.inl ⟨_,refused,rfl⟩)⟩
  | attempted reached accepted comesTo => exact .inr ⟨_,reached,.inr (.inr ⟨accepted,_,_,comesTo,rfl⟩)⟩

/-- No two of these apply to one scan. -/
theorem Decides.unique {decision decision' : Decision} (h : r.Decides w config now memory decision)
    (h' : r.Decides w config now memory decision') : decision = decision' := by
  obtain ⟨error,hs,rfl⟩ | ⟨s,hs,h⟩ := h.reaches
  · obtain ⟨error',hs',rfl⟩ | ⟨s',hs',_⟩ := h'.reaches
    · cases hs.symm.trans hs'
      rfl
    · cases hs.symm.trans hs'
  obtain ⟨error',hs',rfl⟩ | ⟨s',hs',h'⟩ := h'.reaches
  · cases hs.symm.trans hs'
  cases hs.symm.trans hs'
  obtain ⟨text,hv,rfl⟩ | ⟨error,hv,rfl⟩ | ⟨hv,started,outcome,comesTo,rfl⟩ := h <;>
    obtain ⟨text',hv',rfl⟩ | ⟨error',hv',rfl⟩ | ⟨hv',started',outcome',comesTo',rfl⟩ := h' <;>
    cases hv.symm.trans hv'
  · rfl
  · rfl
  · obtain ⟨rfl,rfl⟩ := comesTo.unique comesTo'
    rfl

/-- Every scan is decided in one way, by the first that applies, and shows it. It leaves no result just if nobody
accepted the configuration or the scanner crashed over it. Without a timeout no time runs out; with one, a job that
would end later is stopped and a job that would end earlier is not. -/
theorem scan_decided (r : Registry) (w : World σ) (config : ScanConfig) (now : Nat) (memory : σ) :
    (∃! decision, r.Decides w config now memory decision) ∧
    (∀ decision, r.Decides w config now memory decision → decision.Shows config (r.scan w config now memory)) ∧
    ((r.scan w config now memory).result? = none ↔
      (∃ error, r.Decides w config now memory (.refused error)) ∨ ∃ text, r.Decides w config now memory (.upset text)) ∧
    (config.tool = some "" → r.Decides w config now memory (.refused (.scannerNotFound ""))) ∧
    (∀ s : Scanner, config.timeout.isZero = true → (s.runJob w config now memory).1.ending ≠ .timedOut) ∧
    ∀ (s : Scanner) d, config.deadline now = some d →
      (d < (s.undisturbed w config now memory).finish → (s.scan config).Outlasts w d now memory) ∧
      ((s.undisturbed w config now memory).finish < d → ¬ (s.scan config).Outlasts w d now memory) := by
  obtain ⟨decision,h⟩ := r.exists_decides w config now memory
  refine ⟨⟨decision,h,fun _ h' => h'.unique h⟩,fun _ h => h.shows,?_,?_,fun s => s.ending_ne_timedOut,?_⟩
  · have shown := h.shows
    cases decision with
    | refused error => exact iff_of_true (by rw [Attempt.result?,shown.1]) (.inl ⟨error,h⟩)
    | upset text => exact iff_of_true (by rw [Attempt.result?,shown.1]) (.inr ⟨text,h⟩)
    | attempted s started outcome =>
      obtain ⟨⟨timing,attempted⟩,_⟩ := shown
      refine iff_of_false ?_ ?_
      · rw [Attempt.result?,attempted]
        cases outcome <;> simp
      · rintro (⟨error,h'⟩ | ⟨text,h'⟩) <;> cases h.unique h'
  · intro named
    refine .notFound named fun registered => ?_
    obtain ⟨s,hs,unnamed⟩ := List.mem_map.mp registered
    exact r.named s hs unnamed
  · intro s d hd
    obtain ⟨outlasts,_,_,reached⟩ | ⟨inside,_,finish⟩ :=
      (s.scan config).inTime_run w memory (Scanner.le_deadline config now hd)
    · exact ⟨fun _ => outlasts,fun before => absurd reached (Nat.not_le.mpr before)⟩
    · exact ⟨fun after => absurd finish (Nat.not_le.mpr after),fun _ => inside⟩

/-- A scanner that sleeps for longer than it has, in a world that gives up when its time runs out. -/
def drowsy : Scanner := .doing "nmap" .port (.sleep 9 (.finish (.ports [])))

def hurried : World Unit := { World.still with cancelAt := some 7 }

def brief : ScanConfig := { (ScanConfig.create 1 "example.com").withTool "nmap" with timeout := ⟨7,by decide⟩ }

/-- Giving up comes before the deadline of the same moment. -/
theorem scan_decided_tie : ∃ timing, ((⟨[drowsy],by decide,by decide⟩ : Registry).scan hurried brief 0 ()).verdict =
    .failed (.scanCancelled "nmap")
      (some (.unsuccessful "nmap" .port "example.com" timing (.scanCancelled "nmap"))) := by
  obtain ⟨_,shows,_⟩ := scan_decided ⟨[drowsy],by decide,by decide⟩ hurried brief 0 ()
  have givenUp : drowsy.ComesTo hurried brief 0 () true (.error (.scanCancelled "nmap")) := by
    refine .givenUp rfl (by decide) (by decide) ?_
    rintro _ ⟨⟩
    decide
  exact (shows _ (.attempted rfl rfl givenUp)).1

/-- Neither an error of the look-up nor one of the scanner, and no result. -/
theorem no_result_if_upset : ∃ s,
    Engine.brittle.registry.select ((ScanConfig.create 1 "example.com").withTool "nmap") = .ok s ∧
    (∀ error, s.verify ((ScanConfig.create 1 "example.com").withTool "nmap") ≠ .refused error) ∧
    (Engine.brittle.registry.scan Engine.brittle.world ((ScanConfig.create 1 "example.com").withTool "nmap") 0
      ()).result? = none ∧
    (Engine.brittle.registry.scan Engine.brittle.world ((ScanConfig.create 1 "example.com").withTool "nmap") 0
      ()).verdict = .crashed "invalid" :=
  ⟨_,rfl,nofun,rfl,rfl⟩

end Registry
end Recon
