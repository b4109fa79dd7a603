import Recon.Engine.Registry

/-! One scan: look the scanner up, let it verify the configuration, run its job within the time limits
and record the outcome. The clock counts nanoseconds and only waiting moves it. -/
namespace Recon

/-- What a run can show of its course, in order. -/
inductive Event where
  /-- A scan was asked for. -/
  | dispatched (config : ScanConfig)
  /-- A scanner was asked to verify a configuration. -/
  | verified (scanner : String) (config : ScanConfig)
  /-- A scanner was started. -/
  | entered (scanner : String) (config : ScanConfig)
deriving DecidableEq

/-- Times at which a job is stopped. -/
structure Limits where
  deadline : Option Nat
  cancelAt : Option Nat
deriving DecidableEq, Repr

/-- How waiting for a time ended. -/
inductive Waited where
  | reached
  | timedOut (at' : Nat)
  | cancelled (at' : Nat)
deriving DecidableEq, Repr

/-- Waiting until `t`. Cancellation comes before anything else of the same moment, the deadline after
what is waited for unless `yields` says that the deadline comes first. -/
def Limits.wait (l : Limits) (yields : Bool) (t : Nat) : Waited :=
  let beforeDeadline (c : Nat) : Bool := match l.deadline with
    | none => true
    | some d => c ≤ d
  let stopped : Waited := match l.deadline with
    | none => .reached
    | some d => if d < t || (yields && d == t) then .timedOut d else .reached
  match l.cancelAt with
  | none => stopped
  | some c => if c ≤ t && beforeDeadline c then .cancelled c else stopped

/-- How a job ended. -/
inductive Ending where
  | finished (payload : Payload)
  | failed (error : ScanError)
  | crashed
  | timedOut
  | cancelled
deriving DecidableEq, Repr

/-- A job that is over; `σ` is what programs remember between their starts. -/
structure JobRun (σ : Type) where
  ending : Ending
  finish : Nat
  warnings : List Warning
  memory : σ

/-- The world around the engine. -/
structure World (σ : Type) where
  /-- What a program does when it is started at a time of the clock. -/
  start : Nat → Command → σ → Course × σ
  /-- The addresses of a host. -/
  addresses : String → List String
  /-- The calendar at a time of the clock. -/
  calendar : Nat → Moment
  /-- When the caller gives up. -/
  cancelAt : Option Nat

namespace Job

variable {σ : Type}

/-- The report of a program that takes its course, the time when it is known, and whether the deadline
comes before it when both are at one moment. -/
def reportOf (limit : Duration) (now : Nat) : Course → Report × Nat × Bool
  | .cannotStart reason => (.notStarted reason,now,false)
  | .hangs => (.timedOut limit,now + limit.nanos,true)
  | .ends after exit stdout stderr =>
    if after ≤ limit.nanos then (.ended exit stdout stderr,now + after,false)
    else (.timedOut limit,now + limit.nanos,true)

/-- Runs a job from `now` on. -/
def run (w : World σ) (l : Limits) : Job → Nat → σ → JobRun σ
  | .finish payload,now,memory => ⟨.finished payload,now,[],memory⟩
  | .fail error,now,memory => ⟨.failed error,now,[],memory⟩
  | .crash,now,memory => ⟨.crashed,now,[],memory⟩
  | .sleep nanos next,now,memory =>
    match l.wait false (now + nanos) with
    | .reached => next.run w l (now + nanos) memory
    | .timedOut t => ⟨.timedOut,t,[],memory⟩
    | .cancelled t => ⟨.cancelled,t,[],memory⟩
  | .launch command limit next,now,memory =>
    let (course,memory) := w.start now command memory
    let (report,t,yields) := reportOf limit now course
    if t = now then (next report).run w l t memory
    else match l.wait yields t with
      | .reached => (next report).run w l t memory
      | .timedOut t => ⟨.timedOut,t,[],memory⟩
      | .cancelled t => ⟨.cancelled,t,[],memory⟩
  | .resolve hosts next,now,memory => (next (hosts.map w.addresses)).run w l now memory
  | .warn warning next,now,memory =>
    let r := next.run w l now memory
    { r with warnings := warning :: r.warnings }

end Job

/-- The outcome of asking for a scan. -/
inductive Verdict where
  | completed (result : ScanResult)
  /-- The attempt failed, or there was none and so no result. -/
  | failed (error : ScanError) (result : Option ScanResult)
  /-- Verifying the configuration crashed. -/
  | crashed (text : String)
deriving DecidableEq

/-- A scan that is over. -/
structure Attempt (σ : Type) where
  verdict : Verdict
  events : List Event
  warnings : List Warning
  finish : Nat
  memory : σ

/-- The payload of a job that ended well and fits the category, otherwise the cause. -/
def Ending.outcome (scanner : String) (category : Category) (timeout : Duration) :
    Ending → Except ScanError Payload
  | .finished payload =>
    if category.accepts payload then .ok payload
    else .error (.invalidScanResult scanner
      (payload.kind.name ++ " data from a " ++ category.name ++ " scanner"))
  | .failed error => .error error
  | .crashed => .error (.scanFailed scanner "scanner panicked")
  | .timedOut => .error (.scanTimeout scanner timeout)
  | .cancelled => .error (.scanCancelled scanner)

/-- The span between two times of the clock. -/
def Duration.between (start finish : Nat) : Duration :=
  ⟨min (finish - start) (Duration.limit - 1),by
    have : 0 < Duration.limit := by decide
    omega⟩

namespace Scanner

variable {σ : Type}

/-- The job of a scanner within the timeout of the configuration; it is not started when the caller has
given up already. -/
def runJob (s : Scanner) (w : World σ) (config : ScanConfig) (now : Nat) (memory : σ) :
    JobRun σ × List Event :=
  let cancelled : Bool := match w.cancelAt with
    | none => false
    | some c => c ≤ now
  if cancelled then (⟨.cancelled,now,[],memory⟩,[])
  else
    let deadline := if config.timeout.isZero then none else some (now + config.timeout.nanos)
    ((s.scan config).run w ⟨deadline,w.cancelAt⟩ now memory,[.entered s.name config])

/-- An attempt with a scanner that accepted the configuration. -/
def attempt (s : Scanner) (w : World σ) (config : ScanConfig) (now : Nat) (memory : σ) : Attempt σ :=
  let (job,events) := s.runJob w config now memory
  let timing : Timing := ⟨w.calendar now,w.calendar job.finish,.between now job.finish⟩
  match job.ending.outcome s.name s.category config.timeout with
  | .ok payload =>
    ⟨.completed (.completed s.name s.category config.target timing payload),events,job.warnings,job.finish,
      job.memory⟩
  | .error e =>
    ⟨.failed e (some (.unsuccessful s.name s.category config.target timing e)),events,
      job.warnings ++ [.scanUnsuccessful s.name config.target e],job.finish,job.memory⟩

end Scanner

namespace Registry

variable {σ : Type}

/-- Runs the scanner that the configuration names. -/
def scan (r : Registry) (w : World σ) (config : ScanConfig) (now : Nat) (memory : σ) : Attempt σ :=
  match config.tool with
  | none => ⟨.failed .noToolSpecified none,[.dispatched config],[],now,memory⟩
  | some name =>
    match r.get name with
    | .error e => ⟨.failed e none,[.dispatched config],[],now,memory⟩
    | .ok s =>
      let asked := [.dispatched config,.verified s.name config]
      match s.verify config with
      | .crashed text => ⟨.crashed text,asked,[],now,memory⟩
      | .refused e => ⟨.failed e none,asked,[],now,memory⟩
      | .accepted =>
        let a := s.attempt w config now memory
        { a with events := asked ++ a.events }

end Registry
end Recon
