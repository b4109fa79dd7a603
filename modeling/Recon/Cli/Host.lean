import Recon.Cli.Settings
import Recon.Codec.Pipeline
import Recon.Json.Reader
import Recon.Text.Lines
import Recon.Text.Utf8
import Recon.Toml.Reader

/-! The machine that the program runs on: its files with their paths, its programs and its environment, and what is
loaded from its files. -/
namespace Recon

namespace Path

/-- The parts of a path that lead on. -/
def parts (path : List Char) : List (List Char) :=
  (Text.pieces (· == '/') path).filter fun part => !part.isEmpty && part != ['.']

/-- The last part, if it names something. -/
def fileName? (path : List Char) : Option (List Char) := (parts path).getLast?.filter (· != ['.','.'])

/-- What follows the last dot of a file's name, unless that dot begins the name. -/
def extension? (path : List Char) : Option (List Char) :=
  (fileName? path).bind fun name =>
    let extension := (name.reverse.takeWhile (· != '.')).reverse
    if name.length ≤ extension.length + 1 then none else some extension

end Path

/-- Why a file has no text. -/
inductive ReadFault where
  | missing
  | directory
  /-- The path leads through a file. -/
  | throughFile
  | refused
  | notText
  | other (reason : String)
deriving DecidableEq, Repr

def ReadFault.message : ReadFault → String
  | .missing => "No such file or directory (os error 2)"
  | .directory => "Is a directory (os error 21)"
  | .throughFile => "Not a directory (os error 20)"
  | .refused => "Permission denied (os error 13)"
  | .notText => "stream did not contain valid UTF-8"
  | .other reason => reason

/-- Why a document cannot be used. -/
inductive DocumentFault where
  | malformed
  | unfit (fault : Fault)
deriving DecidableEq, Repr

def DocumentFault.message : DocumentFault → String
  | .malformed => "the document is malformed"
  | .unfit .mismatch => "the document does not have the expected form"
  | .unfit .overflow => "a duration is out of range"
  | .unfit (.duration cause) => cause.message

/-- Why a run of the program fails. -/
inductive RunError where
  | unreadable (path : String) (fault : ReadFault)
  | badSettings (path : String) (fault : DocumentFault)
  | badPipeline (path : String) (fault : DocumentFault)
  | scan (error : ScanError)
  | stopped (pipeline : String) (error : ScanError)
  /-- The program ends at once and in disorder. -/
  | crashed (text : String)
deriving DecidableEq, Repr

namespace RunError

def message : RunError → String
  | unreadable path fault => "unable to read " ++ path ++ ": " ++ fault.message
  | badSettings path fault => "invalid config " ++ path ++ ": " ++ fault.message
  | badPipeline path fault => "invalid pipeline file " ++ path ++ ": " ++ fault.message
  | scan error => error.message
  | stopped pipeline error => Pipeline.stopMessage pipeline error
  | crashed text => text

def exitCode : RunError → Nat
  | crashed _ => 101
  | _ => 1

end RunError

structure Host where
  /-- The bytes of a file. -/
  read : String → Except ReadFault (List UInt8)
  /-- Whether there is a program of that name or path. -/
  isProgram : String → Bool
  /-- The directory of the user. -/
  home : Option String
  /-- The settings file named by the environment. -/
  settingsFile : Option String

namespace Host

def readText (h : Host) (path : String) : Except ReadFault (List Char) :=
  (h.read path).bind fun bytes => (Text.Utf8.decode? bytes).elim (.error .notText) .ok

end Host

/-- The settings in a text. -/
def Settings.ofText (cs : List Char) : Except DocumentFault Settings :=
  match Toml.read? cs with
  | none => .error .malformed
  | some v => (Settings.decode .toml v).mapError .unfit

/-- The settings in a file that was asked for. -/
def Settings.ofFile (h : Host) (path : String) : Except RunError Settings :=
  match h.readText path with
  | .error fault => .error (.unreadable path fault)
  | .ok cs => (Settings.ofText cs).mapError (.badSettings path)

/-- The settings in a file that need not be there; a file that is no settings file does not count. -/
def Settings.ofFile? (h : Host) (path : String) : Option Settings :=
  ((h.readText path).toOption).bind fun cs => (Settings.ofText cs).toOption

/-- Where the settings of a user are. -/
def userSettingsPath (home : String) : String := home ++ "/.config/cyberedge/reconctl.toml"

def systemSettingsPath : String := "/etc/cyberedge/reconctl.toml"

/-- The settings in the file asked for, otherwise those of the user, of the system, or the usual ones. -/
def Settings.load (h : Host) : (path : Option String) → Except RunError Settings
  | some path => Settings.ofFile h path
  | none =>
    let user := h.home.bind fun home => Settings.ofFile? h (userSettingsPath home)
    .ok ((user.or (Settings.ofFile? h systemSettingsPath)).getD {})

/-- The pipeline in a text, which is JSON or TOML. -/
def Pipeline.ofText (isJson : Bool) (cs : List Char) : Except DocumentFault Pipeline :=
  if isJson then (Decode.document (Pipeline.decode .json) (Json.read cs)).mapError .unfit
  else match Toml.read? cs with
    | none => .error .malformed
    | some v => (Pipeline.decode .toml v).mapError .unfit

/-- The pipeline in a file; the extension tells the notation. -/
def Pipeline.ofFile (h : Host) (path : String) : Except RunError Pipeline :=
  match h.readText path with
  | .error fault => .error (.unreadable path fault)
  | .ok cs =>
    match Pipeline.ofText (Path.extension? path.toList == some ['j','s','o','n']) cs with
    | .ok p => .ok p
    | .error (.unfit .overflow) => .error (.crashed "overflow in a duration")
    | .error fault => .error (.badPipeline path fault)

end Recon
