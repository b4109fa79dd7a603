import Recon.Dict
import Recon.Engine.Registry
import Recon.Text.Lines
import Recon.Text.Utf8

/-! Tools that are programs of their own: how they are started and what their end means. -/
namespace Recon

structure Tool where
  name : String
  category : Category
  /-- The program to start. -/
  program : String
  /-- The time limit when a configuration sets none. -/
  defaultTimeout : Duration
deriving DecidableEq, Repr

/-- Names of signals by number. -/
def signalNames : List (Nat × String) := [
  (1,"SIGHUP"),(2,"SIGINT"),(3,"SIGQUIT"),(4,"SIGILL"),(5,"SIGTRAP"),(6,"SIGABRT"),(7,"SIGBUS"),
  (8,"SIGFPE"),(9,"SIGKILL"),(10,"SIGUSR1"),(11,"SIGSEGV"),(12,"SIGUSR2"),(13,"SIGPIPE"),
  (14,"SIGALRM"),(15,"SIGTERM"),(16,"SIGSTKFLT"),(17,"SIGCHLD"),(18,"SIGCONT"),(19,"SIGSTOP"),
  (20,"SIGTSTP"),(21,"SIGTTIN"),(22,"SIGTTOU"),(23,"SIGURG"),(24,"SIGXCPU"),(25,"SIGXFSZ"),
  (26,"SIGVTALRM"),(27,"SIGPROF"),(28,"SIGWINCH"),(29,"SIGIO"),(30,"SIGPWR"),(31,"SIGSYS")]

def Exit.message : Exit → String
  | .code n => "exit status: " ++ toString n
  | .signal n =>
    "signal: " ++ toString n ++ ((signalNames.find? (·.1 == n)).map fun e => " (" ++ e.2 ++ ")").getD ""

def Exit.isSuccess (e : Exit) : Bool := e == .code 0

namespace Tool

def failed (t : Tool) (reason : String) : ScanError := .scanFailed t.name reason

/-- The program ended well, but its report cannot be read. -/
def invalidOutput (t : Tool) (reason : String) : ScanError := .invalidResult t.name reason

/-- The output of a program that ended well, otherwise the cause. -/
def output (t : Tool) : Report → Except ScanError String
  | .notStarted reason => .error (t.failed ("unable to start " ++ t.program ++ ": " ++ reason))
  | .timedOut limit => .error (.scanTimeout t.name limit)
  | .ended exit stdout stderr =>
    if exit.isSuccess then .ok (String.ofList (Text.Utf8.decodeLossy stdout))
    else .error (t.failed
      (exit.message ++ " " ++ String.ofList (Text.trim (Text.Utf8.decodeLossy stderr))))

/-- The time limit of a run: that of the configuration unless it is zero. -/
def limit (t : Tool) (timeout : Duration) : Duration := if timeout.isZero then t.defaultTimeout else timeout

/-- No program can be given a null character. -/
def holdsNull (s : String) : Bool := s.toList.contains '\x00'

/-- Runs the program and goes on with its output. -/
def execute (t : Tool) (args : List String) (stdin : Option String) (timeout : Duration)
    (next : Except ScanError String → Job) : Job :=
  if holdsNull t.program || args.any holdsNull then
    next (t.output (.notStarted "nul byte found in provided data"))
  else .launch ⟨t.program,args,stdin⟩ (t.limit timeout) fun report => next (t.output report)

/-- Runs the program and reads its output as a payload. -/
def executeThen (t : Tool) (args : List String) (stdin : Option String) (timeout : Duration)
    (read : String → Job) : Job :=
  t.execute args stdin timeout fun
    | .ok output => read output
    | .error e => .fail e

/-- Whatever is started is the program of the tool, with these arguments and this input. -/
theorem command_of_executeThen {t : Tool} {args : List String} {stdin : Option String} {timeout limit : Duration}
    {read : String → Job} {call : Command} {next : Report → Job}
    (started : t.executeThen args stdin timeout read = .launch call limit next) : call = ⟨t.program,args,stdin⟩ := by
  unfold executeThen execute at started
  split at started
  · cases started
  · cases started
    rfl

end Tool

/-- Programs by tool name; a tool without one is started by its name. -/
structure ToolPaths where
  programs : Dict String
deriving DecidableEq

def ToolPaths.program (p : ToolPaths) (name : String) : String := (p.programs.get? name).getD name

/-- The option with its flag, if it is set. -/
def optionArgs (flag : String) : Option String → List String
  | none => []
  | some value => [flag,value]

def flagArgs (flag : String) (set : Bool) : List String := if set then [flag] else []

/-- The items of a comma-separated option. -/
def commaItems (value : String) : List String := (Text.commaItems value.toList).map String.ofList

/-- Headers from a comma-separated option, each with its flag. -/
def headerArgs (headers : List String) : List String := headers.flatMap fun h => ["-H",h]

/-- The items of the `headers` option. -/
def ScanConfig.headers (c : ScanConfig) : List String := ((c.option "headers").map commaItems).getD []

/-- The base check, and a target list that must not be empty. -/
def ScanConfig.checkTargets (c : ScanConfig) (targets : List String) : Except ScanError Unit :=
  match c.checkBase with
  | .error e => .error e
  | .ok () => if targets.isEmpty then .error (.invalidTarget c.target) else .ok ()

/-- Subdomains found by earlier stages. -/
def ScanConfig.knownSubdomains (c : ScanConfig) : List Subdomain :=
  (c.parentsOf .subdomain).flatMap fun r => match r.subdomains with
    | .ok found => found
    | .error _ => []

/-- Web technologies found by earlier stages. -/
def ScanConfig.knownWebTech (c : ScanConfig) : List WebTech :=
  (c.parentsOf .webTech).filterMap fun r => r.webTech.toOption

/-- The subdomains of earlier stages under both schemes. -/
def ScanConfig.subdomainUrls (c : ScanConfig) : List String :=
  c.knownSubdomains.flatMap fun s => ["http://" ++ s.subdomain,"https://" ++ s.subdomain]

end Recon
