import Recon.Decode.Fields
import Recon.Json.Reader
import Recon.Tool.Command
import Recon.Tool.Address

/-! Nuclei tries templates of known weaknesses. Its report has a JSON record or a plain line, such as
`[template] [http] [high] Title https://example.com`, for each finding. -/
namespace Recon.Nuclei

def tool (program : String) : Tool := ⟨"nuclei",.vulnerability,program,.minutes 15⟩

/-- Web servers of earlier stages and then their subdomains under both schemes, or else the target. -/
def targets (c : ScanConfig) : List String :=
  let known := (c.knownWebTech.filter fun w => w.url != "").map (·.url) ++ c.subdomainUrls
  if known.isEmpty then Target.urls c.target else known.eraseDups

structure Settings where
  targets : List String
  templates : List String
  severity : Option String
  tags : Option String
  excludeTags : Option String
  headers : List String
  followRedirect : Bool
deriving DecidableEq, Repr

/-- High and critical findings when neither templates nor a severity are given. -/
def severityOf (c : ScanConfig) : Option String :=
  match c.option "templates",c.option "severity" with
  | none,none => some "high,critical"
  | _,severity => severity

def Settings.ofConfig (targets : List String) (c : ScanConfig) : Settings where
  targets := targets
  templates := ((c.option "templates").map commaItems).getD []
  severity := severityOf c
  tags := c.option "tags"
  excludeTags := c.option "exclude_tags"
  headers := c.headers
  followRedirect := c.flag "follow_redirect"

def Settings.args (s : Settings) : List String :=
  ["-jsonl","-silent","-timeout","10","-retries","2","-c","50","-rate-limit","150"]
    ++ s.templates.flatMap (fun t => ["-t",t]) ++ optionArgs "-s" s.severity ++ optionArgs "-tags" s.tags
    ++ optionArgs "-etags" s.excludeTags ++ headerArgs s.headers
    ++ flagArgs "-follow-redirects" s.followRedirect ++ ["-duc"] ++ s.targets.flatMap fun t => ["-u",t]

def check (c : ScanConfig) : Except ScanError Unit := c.checkTargets (targets c)

structure Classification where
  cveIds : Option (List String) := none
  cvss : Option Binary64 := none

structure Info where
  name : String := ""
  description : String := ""
  severity : String := ""
  classification : Classification := {}

/-- A JSON record of the report. -/
structure Line where
  templateId : String
  info : Info
  host : String
  matchedAt : String
  extracted : List String
  request : String

def classificationFields : Fields Classification :=
  ((Fields.withDefault "cve-id" (Decode.optional Decode.texts) none).and
    (.withDefault "cvss-score" (Decode.optional Decode.binary64) none)).map
    fun (cveIds,cvss) => ⟨cveIds,cvss⟩

def infoFields : Fields Info :=
  (((Fields.withDefault "name" Decode.text "").and (.withDefault "description" Decode.text "")).and
    ((Fields.withDefault "severity" Decode.text "").and
      (.withDefault "classification" (classificationFields.decode .json) {}))).map
    fun ((name,description),severity,classification) => ⟨name,description,severity,classification⟩

def lineFields : Fields Line :=
  (((Fields.withDefault "template-id" Decode.text "").and (.withDefault "info" (infoFields.decode .json) {})).and
    (((Fields.withDefault "host" Decode.text "").and (.withDefault "matched-at" Decode.text "")).and
      ((Fields.withDefault "extracted-results" Decode.texts []).and (.withDefault "request" Decode.text "")))).map
    fun ((templateId,info),(host,matchedAt),extracted,request) =>
      ⟨templateId,info,host,matchedAt,extracted,request⟩

def Line.vulnerability (l : Line) : Vulnerability where
  target := if l.matchedAt = "" then l.host else l.matchedAt
  cveId := ((l.info.classification.cveIds.getD []).head?).getD ""
  title := if l.info.name = "" then l.templateId else l.info.name
  description := l.info.description
  severity := String.ofList (Text.lower l.info.severity.toList)
  cvss := l.info.classification.cvss.getD .zero
  location := l.matchedAt
  parameter := ", ".intercalate l.extracted
  payload := l.request

/-- Severities, the gravest first. -/
def severities : List String := ["critical","high","medium","low","info"]

/-- The gravest severity that stands in square brackets anywhere in a line. -/
def severityIn (line : List Char) : String :=
  (severities.find? fun s => Text.occurs ('[' :: s.toList ++ [']']) (Text.lower line)).getD "unknown"

/-- A plain line of at least three words; the last one is the target. -/
def readPlain (line : List Char) : Option Vulnerability :=
  let words := Text.words line
  if words.length < 3 then none
  else
    let target := String.ofList (words.getLast?.getD [])
    some {
      target := target
      title := String.ofList (Text.joinWith [' '] ((words.drop 2).dropLast))
      severity := severityIn line
      location := target }

/-- A JSON record, or a plain line unless it looks like a broken record. -/
def readLine (line : List Char) : Option Vulnerability :=
  match Decode.document (lineFields.decode .json) (Json.read line) with
  | .ok l => some l.vulnerability
  | .error _ => if line.head? == some '\x7b' then none else readPlain line

/-- The findings with a target. -/
def readReport (report : String) : List Vulnerability :=
  ((Text.reportLines report.toList).filterMap readLine).filter fun v => v.target != ""

def scan (program : String) (c : ScanConfig) : Job :=
  (tool program).executeThen (Settings.ofConfig (targets c) c).args none c.timeout fun output =>
    .finish (.vulnerabilities (readReport output))

end Recon.Nuclei
