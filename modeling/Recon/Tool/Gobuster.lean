import Recon.Text.Classes
import Recon.Tool.Command
import Recon.Tool.Address

/-! Gobuster looks for paths on web servers, one run for each; a run that fails is skipped with a warning.
Its report has a line for each path, such as `/admin (Status: 301) [Size: 178] [--> /admin/]`. -/
namespace Recon.Gobuster

def tool (program : String) : Tool := ⟨"gobuster",.webPath,program,.minutes 10⟩

/-- Web servers that earlier stages could reach, or else the target itself. -/
def targets (c : ScanConfig) : List String :=
  let known := (c.knownWebTech.filter fun w => w.url != "" && w.isReachable).map (·.url)
  if known.isEmpty then Target.urls c.target else known.eraseDups

structure Settings where
  url : String
  wordlist : String
  extensions : String
  statusCodes : String
  excludeStatus : Option String
  excludeLength : Option String
  userAgent : Option String
  proxy : Option String
  cookies : Option String
  headers : List String
  recursive : Bool
  /-- Only looked at when recursive. -/
  depth : Option String
deriving DecidableEq, Repr

def Settings.ofConfig (url : String) (c : ScanConfig) : Settings where
  url := url
  wordlist := (c.option "wordlist").getD "/usr/share/wordlists/dirb/common.txt"
  extensions := (c.option "extensions").getD "php,html,js,txt,xml,json,bak,backup"
  statusCodes := (c.option "status_codes").getD "200,204,301,302,307,403"
  excludeStatus := c.option "exclude_status"
  excludeLength := c.option "exclude_length"
  userAgent := c.option "user_agent"
  proxy := c.option "proxy"
  cookies := c.option "cookies"
  headers := c.headers
  recursive := c.flag "recursive"
  depth := if c.flag "recursive" then c.option "depth" else none

def Settings.args (s : Settings) : List String :=
  ["dir","-u",s.url,"-q","-r","--timeout","10s","--wildcard","-t","50",
      "-w",s.wordlist,"-x",s.extensions,"-s",s.statusCodes]
    ++ optionArgs "-b" s.excludeStatus ++ optionArgs "--exclude-length" s.excludeLength
    ++ optionArgs "-a" s.userAgent ++ optionArgs "--proxy" s.proxy ++ optionArgs "-c" s.cookies
    ++ headerArgs s.headers ++ flagArgs "-R" s.recursive
    ++ optionArgs "--depth" (if s.recursive then s.depth else none)

def check (c : ScanConfig) : Except ScanError Unit := c.checkTargets (targets c)

/-- Digits after `mark` and blanks, closed by `close`, at the start of a text. -/
def numberHere? (mark : List Char) (close : Char) (cs : List Char) : Option (List Char) :=
  match Text.after? mark cs with
  | none => none
  | some rest =>
    let rest := rest.dropWhile Text.isBlank
    let digits := rest.takeWhile Text.isDecimalDigit
    if !digits.isEmpty && (rest.dropWhile Text.isDecimalDigit).head? == some close then some digits else none

/-- The first such digits in a text. -/
def number? (mark : List Char) (close : Char) : List Char → Option (List Char)
  | [] => none
  | c :: cs => (numberHere? mark close (c :: cs)).orElse fun _ => number? mark close cs

/-- Their value, zero when there are none or it does not fit 64 bits. -/
def number (mark : List Char) (close : Char) (line : List Char) : Nat :=
  ((number? mark close line).bind (Text.readBelow? UInt64.size)).getD 0

def statusMark : List Char := ['(','S','t','a','t','u','s',':']

def sizeMark : List Char := ['[','S','i','z','e',':']

/-- What an arrow points to. -/
def pointee? (cs : List Char) : Option (List Char) :=
  let word := (cs.dropWhile Text.isBlank).takeWhile fun c => !Text.isBlank c && c != '[' && c != ']'
  if word.isEmpty then none else some word

/-- The target of the first arrow, `->` or `-->`. -/
def redirect? : List Char → Option (List Char)
  | [] => none
  | '-' :: cs =>
    let here := match cs with
      | '>' :: rest => pointee? rest
      | '-' :: '>' :: rest => pointee? rest
      | _ => none
    here.orElse fun _ => redirect? cs
  | _ :: cs => redirect? cs

/-- Drops slashes at the end. -/
def dropSlashes (url : String) : String := String.ofList (Text.dropEndWhile (· == '/') url.toList)

/-- A line counts when it begins with a slash. -/
def readLine (base : String) (line : List Char) : Option WebPath :=
  if line.head? != some '/' then none
  else
    let path := String.ofList (line.takeWhile fun c => !Text.isBlank c)
    let status := number statusMark ')' line
    some {
      url := dropSlashes base ++ path
      path := path
      statusCode := if status < UInt16.size then UInt16.ofNat status else 0
      length := UInt64.ofNat (number sizeMark ']' line)
      title := ((redirect? line).map fun target => "Redirect to: " ++ String.ofList target).getD "" }

/-- The paths in the report of one run against `base`. -/
def readReport (base : String) (report : String) : List WebPath :=
  (Text.reportLines report.toList).filterMap (readLine base)

/-- One run for each URL, after the paths already found. -/
def scanAll (program : String) (c : ScanConfig) (found : List WebPath) : List String → Job
  | [] => .finish (.webPaths found)
  | url :: urls =>
    (tool program).execute (Settings.ofConfig url c).args none c.timeout fun
      | .ok output => scanAll program c (found ++ readReport url output) urls
      | .error e => .warn (.skippingTarget url e) (scanAll program c found urls)

def scan (program : String) (c : ScanConfig) : Job := scanAll program c [] (targets c)

end Recon.Gobuster
