import Recon.Cli.Run
import Recon.Tool.Address

/-! The program `reconctl`. Every file that a run may look at is read beforehand. Nothing is started from
here, so no tool counts as available. -/
namespace Recon.Cli

def readFault : IO.Error → ReadFault
  | .noFileOrDirectory .. => .missing
  | .permissionDenied .. => .refused
  | .inappropriateType _ code _ => if code = 21 then .directory else .throughFile
  | e => .other (toString e)

def readFile (path : String) : IO (Except ReadFault (List UInt8)) := do
  try
    return .ok (← IO.FS.readBinFile path).toList
  catch e =>
    return .error (readFault e)

/-- The host with the files that have been read. -/
def hostOf (home settingsFile : Option String) (files : List (String × Except ReadFault (List UInt8))) : Host where
  read path := (lookup? path files).getD (.error .missing)
  isProgram _ := false
  home := home
  settingsFile := settingsFile

/-- A world without programs and names, in which nobody gives up. -/
def stillWorld : World Unit where
  start _ _ memory := (.cannotStart ReadFault.missing.message,memory)
  addresses := Address.literal
  calendar _ := default
  cancelAt := none

end Recon.Cli

open Recon Recon.Cli

def main (args : List String) : IO UInt32 := do
  let home ← IO.getEnv "HOME"
  let settingsFile ← IO.getEnv "RECONCTL_CONFIG"
  let mut files := []
  for path in filesOf home settingsFile args do
    files := (path,← readFile path) :: files
  let surroundings : Surroundings Unit := ⟨hostOf home settingsFile files,stillWorld,.byFinish Unit⟩
  let outcome := (surroundings.process args ()).1
  IO.print outcome.stdout
  IO.eprint outcome.stderr
  return outcome.code.toUInt32
