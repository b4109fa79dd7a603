import Recon.Model.Payload

/-! What a scanner does once it is started, as a tree of steps: it may wait, start programs, look up
addresses and give warnings, and ends with a payload, an error or a crash. -/
namespace Recon

/-- A program to start, with what it gets on its standard input. -/
structure Command where
  program : String
  args : List String
  stdin : Option String
deriving DecidableEq, Repr

/-- How a program ended. -/
inductive Exit where
  | code (n : Nat)
  | signal (n : Nat)
deriving DecidableEq, Repr

/-- What a program does by itself when it is started. -/
inductive Course where
  | cannotStart (reason : String)
  /-- Ends after some nanoseconds. -/
  | ends (after : Nat) (exit : Exit) (stdout stderr : List UInt8)
  | hangs
deriving DecidableEq, Repr

/-- What is known of a program once it is over. -/
inductive Report where
  | notStarted (reason : String)
  | timedOut (limit : Duration)
  | ended (exit : Exit) (stdout stderr : List UInt8)
deriving DecidableEq, Repr

inductive Warning where
  | scanUnsuccessful (scanner target : String) (error : ScanError)
  | stageFailed (pipeline stage : String) (error : ScanError)
  | skippingTarget (url : String) (error : ScanError)
deriving DecidableEq, Repr

inductive Job where
  | finish (payload : Payload)
  | fail (error : ScanError)
  | crash
  | sleep (nanos : Nat) (next : Job)
  | launch (command : Command) (limit : Duration) (next : Report → Job)
  | resolve (hosts : List String) (next : List (List String) → Job)
  | warn (warning : Warning) (next : Job)

end Recon
