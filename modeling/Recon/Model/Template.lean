import Recon.Model.Pipeline

/-! Pipelines that are always at hand, not yet bound to a target. -/
namespace Recon.Template

def quick : Pipeline where
  name := "quick"
  continueOnError := true
  stages := [
    { name := "quick_discovery", scanners := ["subfinder","httpx"], parallel := true,
      options := .ofList [("timeout","30s")] },
    { name := "critical_vuln_scan", scanners := ["nuclei"], dependsOn := ["httpx"],
      options := .ofList [("severity","critical"),("tags","rce,sqli,xss")] }]

def comprehensive : Pipeline where
  name := "comprehensive"
  continueOnError := true
  stages := [
    { name := "subdomain_discovery", scanners := ["subfinder"],
      options := .ofList [("recursive","true"),("sources","all")] },
    { name := "web_detection", scanners := ["httpx"], dependsOn := ["subfinder"],
      options := .ofList [("detect_tech","true"),("extract_title","true"),("show_status","true"),
        ("show_length","true"),("follow_redirect","true")] },
    { name := "port_scan", scanners := ["nmap"], parallel := true, dependsOn := ["subfinder"],
      options := .ofList [("scan_type","syn"),("detect_service","true"),("ports","1-10000")] },
    { name := "vulnerability_scan", scanners := ["nuclei"], dependsOn := ["httpx"],
      options := .ofList [("severity","high,critical"),("follow_redirect","true")] },
    { name := "directory_scan", scanners := ["gobuster"], dependsOn := ["httpx"],
      options := .ofList [("extensions","php,html,js,txt,xml,json"),
        ("status_codes","200,204,301,302,307,403"),("recursive","false")] }]

def deep : Pipeline where
  name := "deep"
  continueOnError := false
  stages := [
    { name := "extensive_subdomain", scanners := ["subfinder"],
      options := .ofList [("recursive","true"),("sources","all"),("timeout","300s")] },
    { name := "full_port_scan", scanners := ["nmap"], dependsOn := ["subfinder"],
      options := .ofList [("scan_type","syn"),("detect_service","true"),("detect_os","true"),
        ("ports","1-65535"),("scripts","vuln,default")] },
    { name := "comprehensive_web", scanners := ["httpx"], dependsOn := ["subfinder"],
      options := .ofList [("detect_tech","true"),("extract_title","true"),("show_status","true"),
        ("show_server","true"),("show_time","true"),("follow_redirect","true")] },
    { name := "extensive_directory", scanners := ["gobuster"], dependsOn := ["httpx"],
      options := .ofList [("extensions","php,html,js,txt,xml,json,bak,backup,old,tmp"),
        ("status_codes","200,204,301,302,307,403,500"),("recursive","true"),("depth","3")] },
    { name := "comprehensive_vuln", scanners := ["nuclei"], dependsOn := ["httpx","gobuster"],
      options := .ofList [("severity","low,medium,high,critical"),("follow_redirect","true")] }]

/-- Every template, by name. -/
def all : List Pipeline := [comprehensive,deep,quick]

def names : List String := all.map (·.name)

def find? (name : String) : Option Pipeline := all.find? (·.name == name)

/-- The template of that name, bound to a project and a target. -/
def bind (name : String) (projectId : UInt64) (target : String) : Except ScanError Pipeline :=
  match find? name with
  | some p => .ok (p.forTarget projectId target)
  | none => .error (.pipelineInvalid ("unknown pipeline template '" ++ name ++ "'"))

end Recon.Template
