import Recon.Decode.Fields
import Recon.Model.Payload

/-! Payloads as trees: a tag for the kind with the data beside it. -/
namespace Recon

namespace Category

def encode (c : Category) : Value := .text c.name

def decode (format : Format) : Value → Decoded Category := Decode.name format ofName?

end Category

namespace Subdomain

def encode (s : Subdomain) : Value :=
  .table [("domain",.text s.domain),("subdomain",.text s.subdomain),("ips",.texts s.ips),
    ("source",.text s.source)]

def fields : Fields Subdomain :=
  (((Fields.required "domain" Decode.text).and (.required "subdomain" Decode.text)).and
    ((Fields.withDefault "ips" Decode.texts []).and (.required "source" Decode.text))).map
    fun ((domain,subdomain),ips,source) => ⟨domain,subdomain,ips,source⟩

end Subdomain

namespace Service

def encode (s : Service) : Value :=
  .table [("name",.text s.name),("version",.text s.version),("fingerprint",.text s.fingerprint),
    ("banner",.text s.banner)]

def fields : Fields Service :=
  (((Fields.required "name" Decode.text).and (.withDefault "version" Decode.text "")).and
    ((Fields.withDefault "fingerprint" Decode.text "").and (.withDefault "banner" Decode.text ""))).map
    fun ((name,version),fingerprint,banner) => ⟨name,version,fingerprint,banner⟩

end Service

namespace Port

def encode (p : Port) : Value :=
  .table ([("port",.ofNat p.port.toNat),("protocol",.text p.protocol),("state",.text p.state)]
    ++ Value.present "service" (p.service.map Service.encode))

def fields (format : Format) : Fields Port :=
  (((Fields.required "port" Decode.uint16).and (.required "protocol" Decode.text)).and
    ((Fields.required "state" Decode.text).and
      (.withDefault "service" (Decode.optional (Service.fields.decode format)) none))).map
    fun ((port,protocol),state,service) => ⟨port,protocol,state,service⟩

end Port

namespace Technology

def encode (t : Technology) : Value :=
  .table [("name",.text t.name),("category",.text t.category),("version",.text t.version)]

def fields : Fields Technology :=
  ((Fields.required "name" Decode.text).and
    ((Fields.withDefault "category" Decode.text "").and (.withDefault "version" Decode.text ""))).map
    fun (name,category,version) => ⟨name,category,version⟩

end Technology

namespace WebTech

def encode (w : WebTech) : Value :=
  .table [("url",.text w.url),("status_code",.ofNat w.statusCode.toNat),("title",.text w.title),
    ("technologies",.list (w.technologies.map Technology.encode))]

def fields (format : Format) : Fields WebTech :=
  (((Fields.required "url" Decode.text).and (.required "status_code" Decode.uint16)).and
    ((Fields.withDefault "title" Decode.text "").and
      (.withDefault "technologies" (Decode.list (Technology.fields.decode format)) []))).map
    fun ((url,statusCode),title,technologies) => ⟨url,statusCode,title,technologies⟩

end WebTech

namespace WebPath

def encode (w : WebPath) : Value :=
  .table [("url",.text w.url),("path",.text w.path),("status_code",.ofNat w.statusCode.toNat),
    ("length",.ofNat w.length.toNat),("title",.text w.title)]

def fields : Fields WebPath :=
  (((Fields.required "url" Decode.text).and (.required "path" Decode.text)).and
    ((Fields.required "status_code" Decode.uint16).and
      ((Fields.required "length" Decode.uint64).and (.withDefault "title" Decode.text "")))).map
    fun ((url,path),statusCode,length,title) => ⟨url,path,statusCode,length,title⟩

end WebPath

namespace Vulnerability

def encode (v : Vulnerability) : Value :=
  .table [("target",.text v.target),("cve_id",.text v.cveId),("title",.text v.title),
    ("description",.text v.description),("severity",.text v.severity),("cvss",.float v.cvss),
    ("location",.text v.location),("parameter",.text v.parameter),("payload",.text v.payload)]

def fields : Fields Vulnerability :=
  ((((Fields.required "target" Decode.text).and (.withDefault "cve_id" Decode.text "")).and
      ((Fields.required "title" Decode.text).and (.withDefault "description" Decode.text ""))).and
    (((Fields.required "severity" Decode.text).and (.withDefault "cvss" Decode.binary64 .zero)).and
      ((Fields.withDefault "location" Decode.text "").and
        ((Fields.withDefault "parameter" Decode.text "").and (.withDefault "payload" Decode.text ""))))).map
    fun (((target,cveId),title,description),(severity,cvss),location,parameter,payload) =>
      ⟨target,cveId,title,description,severity,cvss,location,parameter,payload⟩

end Vulnerability

namespace Payload

/-- The field that holds the findings of a payload made of a list. -/
def listed (name : String) (found : List Value) : Value := .table [(name,.list found)]

def content : Payload → Value
  | .subdomains found => listed "subdomains" (found.map Subdomain.encode)
  | .ports found => listed "ports" (found.map Port.encode)
  | .webTech found => found.encode
  | .webPaths found => listed "paths" (found.map WebPath.encode)
  | .vulnerabilities found => listed "vulnerabilities" (found.map Vulnerability.encode)

def encode (p : Payload) : Value := .table [(p.kind.name,p.content)]

def decodeContent (format : Format) : Kind → Value → Decoded Payload
  | .subdomain =>
    ((Fields.required "subdomains" (Decode.list (Subdomain.fields.decode format))).map .subdomains).decode format
  | .port =>
    ((Fields.required "ports" (Decode.list ((Port.fields format).decode format))).map .ports).decode format
  | .webTech => ((WebTech.fields format).map .webTech).decode format
  | .webPath =>
    ((Fields.required "paths" (Decode.list (WebPath.fields.decode format))).map .webPaths).decode format
  | .vulnerability =>
    ((Fields.required "vulnerabilities" (Decode.list (Vulnerability.fields.decode format))).map
      .vulnerabilities).decode format

def Kind.ofName? (s : String) : Option Kind := Kind.all.find? (·.name == s)

def decode (format : Format) : Value → Decoded Payload :=
  Decode.tagged fun tag => (Kind.ofName? tag).map (decodeContent format)

end Payload
end Recon
