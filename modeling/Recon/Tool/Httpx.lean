import Recon.Decode.Fields
import Recon.Json.Reader
import Recon.Text.Classes
import Recon.Tool.Command
import Recon.Tool.Address

/-! Httpx probes web servers. It gets its targets on standard input; its report holds a JSON record or a
plain line for each, of which the first with a URL counts. -/
namespace Recon.Httpx

def tool (program : String) : Tool := ⟨"httpx",.webTech,program,.minutes 3⟩

/-- The subdomains of earlier stages under both schemes, or else the target itself. -/
def targets (c : ScanConfig) : List String :=
  if c.subdomainUrls.isEmpty then Target.urls c.target else c.subdomainUrls.eraseDups

/-- Options that are flags, with the flag. -/
def flags : List (String × String) := [
  ("detect_tech","-tech-detect"),("extract_title","-title"),("show_status","-status-code"),
  ("show_length","-content-length"),("show_server","-web-server"),("show_time","-response-time"),
  ("follow_redirect","-follow-redirects")]

structure Settings where
  /-- One for each of `flags`. -/
  set : List Bool
  headers : List String
deriving DecidableEq, Repr

def Settings.ofConfig (c : ScanConfig) : Settings where
  set := flags.map fun f => c.flag f.1
  headers := c.headers

def Settings.args (s : Settings) : List String :=
  ["-json","-silent","-timeout","10","-retries","2","-threads","100"]
    ++ (List.zipWith (fun f set => flagArgs f.2 set) flags s.set).flatten ++ headerArgs s.headers

def check (c : ScanConfig) : Except ScanError Unit := c.checkTargets (targets c)

/-- A JSON record of the report. -/
structure Line where
  url : String
  statusCode : UInt16
  title : String
  webserver : String
  technologies : List Technology
  /-- Technologies as `name:version`. -/
  tech : List String

def technologyFields : Fields Technology :=
  ((Fields.withDefault "name" Decode.text "").and
    ((Fields.withDefault "category" Decode.text "").and (.withDefault "version" Decode.text ""))).map
    fun (name,category,version) => ⟨name,category,version⟩

def lineFields : Fields Line :=
  (((Fields.withDefault "url" Decode.text "").and
      (.named ["status_code","status-code"] Decode.uint16 (.ok 0))).and
    (((Fields.withDefault "title" Decode.text "").and (.withDefault "webserver" Decode.text "")).and
      ((Fields.withDefault "technologies" (Decode.list (technologyFields.decode .json)) []).and
        (.withDefault "tech" Decode.texts [])))).map
    fun ((url,statusCode),(title,webserver),technologies,tech) =>
      ⟨url,statusCode,title,webserver,technologies,tech⟩

/-- A technology written as `name:version` or `name`. -/
def technologyOf (s : String) : Technology :=
  match Text.splitOnce ':' s.toList with
  | some (name,version) => ⟨String.ofList name,"",String.ofList version⟩
  | none => ⟨s,"",""⟩

def Line.webTech (l : Line) : WebTech where
  url := l.url
  statusCode := l.statusCode
  title := l.title
  technologies := l.technologies ++ l.tech.map technologyOf
    ++ if l.webserver = "" then [] else [⟨l.webserver,"Web Server",""⟩]

/-- The URL at the start of a text. -/
def urlHere? (cs : List Char) : Option (List Char) :=
  let scheme? := match Text.after? ['h','t','t','p',':','/','/'] cs with
    | some rest => some (['h','t','t','p',':','/','/'],rest)
    | none => (Text.after? ['h','t','t','p','s',':','/','/'] cs).map
        (['h','t','t','p','s',':','/','/'],·)
  match scheme? with
  | none => none
  | some (scheme,rest) =>
    let path := rest.takeWhile (fun c => !Text.isBlank c)
    if path.isEmpty then none else some (scheme ++ path)

/-- The first URL in a text. -/
def url? : List Char → Option (List Char)
  | [] => none
  | c :: cs => (urlHere? (c :: cs)).orElse fun _ => url? cs

/-- The first three digits between square brackets. -/
def status? : List Char → Option (List Char)
  | [] => none
  | '[' :: a :: b :: c :: ']' :: cs =>
    if [a,b,c].all Text.isDecimalDigit then some [a,b,c] else status? (a :: b :: c :: ']' :: cs)
  | _ :: cs => status? cs

/-- What stands in square brackets, each read up to the first closing one; `inside` is what has been read
since an opening bracket, last first. -/
def bracketed (inside : Option (List Char)) : List Char → List (List Char)
  | [] => []
  | c :: cs =>
    match inside with
    | none => bracketed (if c == '[' then some [] else none) cs
    | some [] => if c == ']' then bracketed none cs else bracketed (some [c]) cs
    | some read => if c == ']' then read.reverse :: bracketed none cs else bracketed (some (c :: read)) cs

/-- A plain line: a URL, a status in brackets and the first other text in brackets as title. -/
def readPlain (line : List Char) : Option WebTech :=
  (url? line).map fun url =>
    { url := String.ofList url
      statusCode := UInt16.ofNat (((status? line).bind (Text.readBelow? UInt16.size)).getD 0)
      title := String.ofList (((bracketed none line).find? fun t => !t.all Char.isDigit).getD [])
      technologies := [] }

def readLine (line : List Char) : Option WebTech :=
  match Decode.document (lineFields.decode .json) (Json.read line) with
  | .ok l => some l.webTech
  | .error _ => readPlain line

/-- The first line of a report with a URL, an empty finding without one. -/
def readReport (report : String) : WebTech :=
  (((Text.reportLines report.toList).filterMap readLine).find? fun w => w.url != "").getD {}

/-- The targets, one a line. -/
def stdin (targets : List String) : String := "\n".intercalate targets ++ "\n"

def scan (program : String) (c : ScanConfig) : Job :=
  (tool program).executeThen (Settings.ofConfig c).args (some (stdin (targets c))) c.timeout fun output =>
    .finish (.webTech (readReport output))

end Recon.Httpx
