import Recon.Tool.Command
import Recon.Tool.Address
import Recon.Xml.Element

/-! Nmap scans the ports of a host and reports them as XML. The report is read as a whole: a single
port that lacks something makes it unreadable. -/
namespace Recon.Nmap

def tool (program : String) : Tool := ⟨"nmap",.port,program,.minutes 5⟩

inductive ScanType where
  | udp | connect | version | syn
deriving DecidableEq, Repr

def ScanType.flag : ScanType → String
  | .udp => "-sU"
  | .connect => "-sT"
  | .version => "-sV"
  | .syn => "-sS"

/-- Any other name means the default of the tool. -/
def ScanType.ofName (name : String) : ScanType :=
  if name = "udp" then .udp else if name = "connect" then .connect
  else if name = "version" then .version else .syn

structure Settings where
  target : String
  scanType : ScanType
  /-- The most common ports when absent. -/
  ports : Option String
  detectService : Bool
  detectOs : Bool
  scripts : Option String
  parallelism : Option String
deriving DecidableEq, Repr

def Settings.ofConfig (target : String) (c : ScanConfig) : Settings where
  target := target
  scanType := .ofName ((c.option "scan_type").getD "connect")
  ports := c.option "ports"
  detectService := c.flag "detect_service"
  detectOs := c.flag "detect_os"
  scripts := c.option "scripts"
  parallelism := c.option "parallelism"

def portArgs : Option String → List String
  | some ports => ["-p",ports]
  | none => ["--top-ports","1000"]

def Settings.args (s : Settings) : List String :=
  ["-oX","-","--max-rate","1000","-T4",s.scanType.flag] ++ portArgs s.ports
    ++ flagArgs "-sV" s.detectService ++ flagArgs "-O" s.detectOs ++ optionArgs "--script" s.scripts
    ++ optionArgs "--min-parallelism" s.parallelism ++ [s.target]

def check (c : ScanConfig) : Except ScanError Unit :=
  match c.checkBase with
  | .error e => .error e
  | .ok () => if Target.host c.target = "" then .error (.invalidTarget c.target) else .ok ()

open Xml

/-- An attribute that must be there once. -/
def required? (name : String) (attributes : List (List Char × List Char)) : Option (List Char) :=
  match valuesOf name.toList attributes with
  | [raw] => some raw
  | _ => none

/-- The text of an attribute that must be there once. -/
def text? (name : String) (attributes : List (List Char × List Char)) : Option String :=
  (required? name attributes).bind fun raw => (unescape? raw).map String.ofList

/-- The text of an attribute, empty when it is absent. -/
def textOrEmpty? (name : String) (attributes : List (List Char × List Char)) : Option String :=
  if (valuesOf name.toList attributes).isEmpty then some "" else text? name attributes

/-- The elements among nodes; text between them is skipped but must be readable. -/
def elements? : List Node → Option (List (List Char × List Char × List Node))
  | [] => some []
  | .text raw :: ns => if isReadable raw then elements? ns else none
  | .cdata _ :: ns => elements? ns
  | .element name attributes children :: ns => (elements? ns).map ((name,attributes,children) :: ·)

/-- The elements among them with a local name, of which there may be one. -/
def single? (name : String) (es : List (List Char × List Char × List Node)) :
    Option (Option (List Char × List Node)) :=
  match es.filter fun e => localName e.1 == name.toList with
  | [] => some none
  | [(_,attributes,children)] => some (some (attributes,children))
  | _ => none

/-- The items of a list after the first of them, which is called `name`. No text may stand between
them; other elements may, if all their text is readable. -/
def followers? (name : List Char) : List Node → Option (List (List Char × List Node))
  | [] => some []
  | .text raw :: ns => if raw.all isGap then followers? name ns else none
  | .cdata _ :: _ => none
  | .element n attributes children :: ns =>
    if n == name then (followers? name ns).map ((attributes,children) :: ·)
    else if localName n == localName name || !areReadable children then none
    else followers? name ns

/-- The items of a list with a local name. Before the first of them anything may stand. -/
def listed? (name : List Char) : List Node → Option (List (List Char × List Node))
  | [] => some []
  | .text raw :: ns => if isReadable raw then listed? name ns else none
  | .cdata _ :: ns => listed? name ns
  | .element n attributes children :: ns =>
    if localName n == name then (followers? n ns).map ((attributes,children) :: ·) else listed? name ns

/-- The state of a port. -/
def state? (attributes : List Char) (children : List Node) : Option String := do
  let as ← attributes? attributes
  let _ ← elements? children
  text? "state" as

def service? (attributes : List Char) (children : List Node) : Option Service := do
  let as ← attributes? attributes
  let _ ← elements? children
  let name ← text? "name" as
  let product ← textOrEmpty? "product" as
  let version ← textOrEmpty? "version" as
  let extra ← textOrEmpty? "extrainfo" as
  some { name := name, version := version, fingerprint := product, banner := extra }

def port? (attributes : List Char) (children : List Node) : Option Port := do
  let as ← attributes? attributes
  let es ← elements? children
  let protocol ← text? "protocol" as
  let number ← (required? "portid" as).bind (Text.readSignedBelow? UInt16.size)
  let (stateAttributes,stateChildren) ← (← single? "state" es)
  let state ← state? stateAttributes stateChildren
  let service ← match ← single? "service" es with
    | none => some none
    | some (attributes,children) => (service? attributes children).map some
  some { port := UInt16.ofNat number, protocol := protocol, state := state, service := service }

/-- The ports in a `ports` element. -/
def ports? (attributes : List Char) (children : List Node) : Option (List Port) := do
  let _ ← attributes? attributes
  let items ← listed? ['p','o','r','t'] children
  items.mapM fun (attributes,children) => port? attributes children

/-- The ports of a host, none when it has no `ports` element. -/
def hostPorts? (attributes : List Char) (children : List Node) : Option (List Port) := do
  let _ ← attributes? attributes
  let es ← elements? children
  match ← single? "ports" es with
  | none => some []
  | some (attributes,children) => ports? attributes children

/-- The ports of all hosts in a report, in document order. -/
def readReport (report : String) : Option (List Port) :=
  match root? report.toList with
  | some (.element _ attributes children) => do
    let _ ← attributes? attributes
    let hosts ← listed? ['h','o','s','t'] children
    (hosts.mapM fun (attributes,children) => hostPorts? attributes children).map List.flatten
  | _ => none

/-- A report that cannot be read fails the scan. What breaks in it is not told: the message of an XML parser is left
out, and the reason is one text for all such reports. -/
def scan (program : String) (c : ScanConfig) : Job :=
  (tool program).executeThen (Settings.ofConfig (Target.host c.target) c).args none c.timeout fun output =>
    match readReport output with
    | some ports => .finish (.ports ports)
    | none => .fail ((tool program).invalidOutput "the report is no readable XML")

end Recon.Nmap
