import Recon.Decode.Fields
import Recon.Json.Reader
import Recon.Tool.Command
import Recon.Tool.Address

/-! Subfinder lists the subdomains of a domain, one a line, plain or as JSON records. -/
namespace Recon.Subfinder

def tool (program : String) : Tool := ⟨"subfinder",.subdomain,program,.minutes 10⟩

/-- What a run depends on. -/
structure Settings where
  domain : String
  sources : Option String
  recursive : Bool
  timeout : Option String
  config : Option String
deriving DecidableEq, Repr

def Settings.ofConfig (domain : String) (c : ScanConfig) : Settings where
  domain := domain
  sources := c.option "sources"
  recursive := c.flag "recursive"
  timeout := c.option "timeout"
  config := c.option "config"

def Settings.args (s : Settings) : List String :=
  ["-d",s.domain,"-silent"] ++ optionArgs "-sources" s.sources ++ flagArgs "-recursive" s.recursive
    ++ optionArgs "-timeout" s.timeout ++ optionArgs "-config" s.config

def check (c : ScanConfig) : Except ScanError Unit :=
  match c.checkBase with
  | .error e => .error e
  | .ok () => if Target.isDomain (Target.host c.target) then .ok () else .error (.invalidTarget c.target)

/-- A host and who reported it. -/
structure Sighting where
  host : String
  source : String
deriving DecidableEq, Repr

def recordFields : Fields (String × String) :=
  (Fields.required "host" Decode.text).and (.withDefault "source" Decode.text "")

/-- A JSON record, or a plain host unless the line looks like a broken record. -/
def readLine (line : List Char) : Option Sighting :=
  match Decode.document (recordFields.decode .json) (Json.read line) with
  | .ok (host,source) => some ⟨host,if source = "" then "subfinder" else "subfinder/" ++ source⟩
  | .error _ =>
    if line.head? == some '\x7b' then none else some ⟨String.ofList (Text.lower line),"subfinder"⟩

/-- Keeps the first sighting of every host that is not among `seen`. -/
def firstSightings (seen : List String) : List Sighting → List Sighting
  | [] => []
  | s :: rest =>
    if seen.contains s.host then firstSightings seen rest
    else s :: firstSightings (s.host :: seen) rest

/-- The sightings in a report whose host holds the domain, each host once. -/
def sightings (domain : String) (report : String) : List Sighting :=
  firstSightings [] (((Text.reportLines report.toList).filterMap readLine).filter fun s =>
    Text.occurs domain.toList s.host.toList)

/-- The subdomains in a report, without addresses. -/
def readReport (domain : String) (report : String) : List Subdomain :=
  (sightings domain report).map fun s =>
    { domain := domain, subdomain := s.host, ips := [], source := s.source }

def withAddresses (found : List Subdomain) (addresses : List (List String)) : List Subdomain :=
  List.zipWith (fun s ips => { s with ips := ips.eraseDups }) found addresses

def scan (program : String) (c : ScanConfig) : Job :=
  let domain := Target.host c.target
  (tool program).executeThen (Settings.ofConfig domain c).args none c.timeout fun output =>
    let found := readReport domain output
    .resolve (found.map (·.subdomain)) fun addresses => .finish (.subdomains (withAddresses found addresses))

end Recon.Subfinder
