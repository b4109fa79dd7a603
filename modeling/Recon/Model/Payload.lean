import Recon.Binary64
import Recon.Error
import Recon.Model.Category

/-! What scans find. A payload is of one kind, and the category of a scanner says which kind it may
deliver: services are reported as ports. -/
namespace Recon

structure Subdomain where
  /-- The domain that was searched. -/
  domain : String
  subdomain : String
  ips : List String := []
  /-- Who reported it. -/
  source : String
deriving DecidableEq, Repr

structure Service where
  name : String
  version : String := ""
  fingerprint : String := ""
  banner : String := ""
deriving DecidableEq, Repr

structure Port where
  port : UInt16
  protocol : String
  state : String
  service : Option Service := none
deriving DecidableEq, Repr

structure Technology where
  name : String
  category : String := ""
  version : String := ""
deriving DecidableEq, Repr

structure WebTech where
  url : String := ""
  statusCode : UInt16 := 0
  title : String := ""
  technologies : List Technology := []
deriving DecidableEq, Repr

/-- Neither redirected nor an error. -/
def WebTech.isReachable (w : WebTech) : Bool := 200 ≤ w.statusCode.toNat && w.statusCode.toNat < 400

structure WebPath where
  url : String
  path : String
  statusCode : UInt16
  length : UInt64
  title : String := ""
deriving DecidableEq, Repr

structure Vulnerability where
  target : String
  cveId : String := ""
  title : String
  description : String := ""
  severity : String
  cvss : Binary64 := .zero
  location : String := ""
  parameter : String := ""
  payload : String := ""
deriving DecidableEq, Repr

inductive Payload where
  | subdomains (found : List Subdomain)
  | ports (found : List Port)
  | webTech (found : WebTech)
  | webPaths (found : List WebPath)
  | vulnerabilities (found : List Vulnerability)
deriving DecidableEq, Repr

namespace Payload

inductive Kind where
  | subdomain | port | webTech | webPath | vulnerability
deriving DecidableEq, Repr

def Kind.all : List Kind := [.subdomain,.port,.webTech,.webPath,.vulnerability]

def Kind.name : Kind → String
  | .subdomain => "subdomain"
  | .port => "port"
  | .webTech => "webtech"
  | .webPath => "webpath"
  | .vulnerability => "vulnerability"

def kind : Payload → Kind
  | .subdomains _ => .subdomain
  | .ports _ => .port
  | .webTech _ => .webTech
  | .webPaths _ => .webPath
  | .vulnerabilities _ => .vulnerability

/-- The payload was of another kind than `expected`. -/
def mismatch (expected : Kind) (p : Payload) : ScanError := .conversionFailed expected.name p.kind.name

def asSubdomains : Payload → Except ScanError (List Subdomain)
  | .subdomains found => .ok found
  | p => .error (p.mismatch .subdomain)

def asPorts : Payload → Except ScanError (List Port)
  | .ports found => .ok found
  | p => .error (p.mismatch .port)

def asWebTech : Payload → Except ScanError WebTech
  | .webTech found => .ok found
  | p => .error (p.mismatch .webTech)

def asWebPaths : Payload → Except ScanError (List WebPath)
  | .webPaths found => .ok found
  | p => .error (p.mismatch .webPath)

def asVulnerabilities : Payload → Except ScanError (List Vulnerability)
  | .vulnerabilities found => .ok found
  | p => .error (p.mismatch .vulnerability)

end Payload

namespace Category

/-- The kind of payload that a scanner of the category delivers. -/
def payloadKind : Category → Payload.Kind
  | .subdomain => .subdomain
  | .port | .service => .port
  | .webTech => .webTech
  | .webPath => .webPath
  | .vulnerability => .vulnerability

def accepts (c : Category) (p : Payload) : Bool := p.kind == c.payloadKind

/-- A payload of the category with nothing in it. -/
def emptyPayload : Category → Payload
  | .subdomain => .subdomains []
  | .port | .service => .ports []
  | .webTech => .webTech {}
  | .webPath => .webPaths []
  | .vulnerability => .vulnerabilities []

@[simp] theorem accepts_emptyPayload (c : Category) : c.accepts c.emptyPayload := by cases c <;> rfl

end Category
end Recon
