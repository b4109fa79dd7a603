import Recon.Model.Payload
import Recon.Model.Status
import Recon.Moment

/-! The record of one scan attempt. -/
namespace Recon

structure ScanResult where
  scanner : String
  category : Category
  target : String
  startTime : Moment
  endTime : Moment
  duration : Duration
  status : Status
  /-- Set when the attempt did not complete. -/
  error : Option String
  /-- Set when the attempt completed. -/
  payload : Option Payload
deriving DecidableEq, Repr

/-- When an attempt started and ended, and how long it took. -/
structure Timing where
  startTime : Moment
  endTime : Moment
  duration : Duration
deriving DecidableEq, Repr, Inhabited

namespace ScanResult

def completed (scanner : String) (category : Category) (target : String) (t : Timing) (p : Payload) :
    ScanResult where
  scanner := scanner
  category := category
  target := target
  startTime := t.startTime
  endTime := t.endTime
  duration := t.duration
  status := .completed
  error := none
  payload := some p

/-- The status of an attempt that ended with an error. -/
def statusOf : ScanError → Status
  | .scanTimeout .. => .timeout
  | _ => .failed

def unsuccessful (scanner : String) (category : Category) (target : String) (t : Timing) (e : ScanError) :
    ScanResult where
  scanner := scanner
  category := category
  target := target
  startTime := t.startTime
  endTime := t.endTime
  duration := t.duration
  status := statusOf e
  error := some e.message
  payload := none

def isCompleted (r : ScanResult) : Bool := r.status == .completed

/-- The payload, or an error that names the status. -/
def data (r : ScanResult) : Except ScanError Payload :=
  match r.payload with
  | some p => .ok p
  | none => .error (.invalidScanResult r.scanner (r.status.name ++ " result without data"))

def subdomains (r : ScanResult) : Except ScanError (List Subdomain) := r.data.bind Payload.asSubdomains

def ports (r : ScanResult) : Except ScanError (List Port) := r.data.bind Payload.asPorts

def webTech (r : ScanResult) : Except ScanError WebTech := r.data.bind Payload.asWebTech

def webPaths (r : ScanResult) : Except ScanError (List WebPath) := r.data.bind Payload.asWebPaths

def vulnerabilities (r : ScanResult) : Except ScanError (List Vulnerability) :=
  r.data.bind Payload.asVulnerabilities

end ScanResult
end Recon
