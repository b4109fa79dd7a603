import Recon.Proofs.Engine.Forecast
import Recon.Tool.Adapter

/-! What the bundled tools go by. A tool looks its options up by name and takes from the results of earlier stages what
they found; it sees neither the order of the options nor the times of those results. -/
namespace Recon

/-- Configurations that differ only in the order of their options and in the times of earlier results. -/
structure ScanConfig.Matches (c c' : ScanConfig) : Prop where
  projectId : c.projectId = c'.projectId
  target : c.target = c'.target
  options : ∀ key, c.options.get? key = c'.options.get? key
  timeout : c.timeout = c'.timeout
  parents : c.parents.map ScanResult.timeless = c'.parents.map ScanResult.timeless

/-- A scanner that says and does the same to configurations that match. -/
def Scanner.Blind (s : Scanner) : Prop :=
  ∀ c c' : ScanConfig, c.Matches c' → s.verify c = s.verify c' ∧ s.scan c = s.scan c'

namespace ScanConfig

lemma parentsOf_timeless (c : ScanConfig) (category : Category) :
    (c.parentsOf category).map ScanResult.timeless =
      (c.parents.map ScanResult.timeless).filter (·.category == category) := by
  rw [List.filter_map]
  rfl

/-- What earlier stages found is told without their times. -/
theorem knownSubdomains_eq (c : ScanConfig) : c.knownSubdomains =
    ((c.parents.map ScanResult.timeless).filter (·.category == .subdomain)).flatMap fun r =>
      match r.subdomains with
      | .ok found => found
      | .error _ => [] := by
  rw [← parentsOf_timeless,List.flatMap_map]
  rfl

lemma knownWebTech_eq (c : ScanConfig) : c.knownWebTech =
    ((c.parents.map ScanResult.timeless).filter (·.category == .webTech)).filterMap fun r => r.webTech.toOption := by
  rw [← parentsOf_timeless,List.filterMap_map]
  rfl

namespace Matches

variable {c c' : ScanConfig} (h : c.Matches c')

include h

lemma tool : c.tool = c'.tool := h.options toolOption

lemma option : c.option = c'.option := by
  funext key
  rw [ScanConfig.option,ScanConfig.option,h.options]

lemma flag : c.flag = c'.flag := by
  funext key
  rw [ScanConfig.flag,ScanConfig.flag,h.option]

lemma headers : c.headers = c'.headers := by rw [ScanConfig.headers,ScanConfig.headers,h.option]

lemma knownSubdomains : c.knownSubdomains = c'.knownSubdomains := by
  rw [knownSubdomains_eq,knownSubdomains_eq,h.parents]

lemma knownWebTech : c.knownWebTech = c'.knownWebTech := by rw [knownWebTech_eq,knownWebTech_eq,h.parents]

lemma subdomainUrls : c.subdomainUrls = c'.subdomainUrls := by
  rw [ScanConfig.subdomainUrls,ScanConfig.subdomainUrls,h.knownSubdomains]

lemma checkBase : c.checkBase = c'.checkBase := by
  rw [ScanConfig.checkBase,ScanConfig.checkBase,h.projectId,h.target]

lemma checkTargets (targets : List String) : c.checkTargets targets = c'.checkTargets targets := by
  rw [ScanConfig.checkTargets,ScanConfig.checkTargets,h.checkBase,h.target]

end Matches
end ScanConfig

/-- A tool that says and does the same to configurations that match. -/
structure Adapter.Blind (a : Adapter) : Prop where
  check : ∀ {c c' : ScanConfig}, c.Matches c' → a.check c = a.check c'
  scan : ∀ {c c' : ScanConfig} (program : String), c.Matches c' → a.scan program c = a.scan program c'

lemma Subfinder.blind : Adapter.Blind ⟨tool,check,scan⟩ where
  check h := by simp only [check,h.checkBase,h.target]
  scan program h := by simp only [scan,Settings.ofConfig,h.target,h.option,h.flag,h.timeout]

lemma Nmap.blind : Adapter.Blind ⟨tool,check,scan⟩ where
  check h := by simp only [check,h.checkBase,h.target]
  scan program h := by simp only [scan,Settings.ofConfig,h.target,h.option,h.flag,h.timeout]

namespace Httpx

lemma targets_eq {c c' : ScanConfig} (h : c.Matches c') : targets c = targets c' := by
  rw [targets,targets,h.subdomainUrls,h.target]

lemma blind : Adapter.Blind ⟨tool,check,scan⟩ where
  check h := by simp only [check,targets_eq h,h.checkTargets]
  scan program h := by simp only [scan,Settings.ofConfig,targets_eq h,h.headers,h.flag,h.timeout]

end Httpx

namespace Gobuster

lemma targets_eq {c c' : ScanConfig} (h : c.Matches c') : targets c = targets c' := by
  rw [targets,targets,h.knownWebTech,h.target]

lemma scanAll_eq {c c' : ScanConfig} (h : c.Matches c') (program : String) (found : List WebPath)
    (urls : List String) : scanAll program c found urls = scanAll program c' found urls := by
  induction urls generalizing found with
  | nil => rfl
  | cons url urls ih => simp only [scanAll,Settings.ofConfig,h.option,h.headers,h.flag,h.timeout,ih]

lemma blind : Adapter.Blind ⟨tool,check,scan⟩ where
  check h := by simp only [check,targets_eq h,h.checkTargets]
  scan program h := by simp only [scan,targets_eq h,scanAll_eq h]

end Gobuster

namespace Nuclei

lemma targets_eq {c c' : ScanConfig} (h : c.Matches c') : targets c = targets c' := by
  rw [targets,targets,h.knownWebTech,h.subdomainUrls,h.target]

lemma blind : Adapter.Blind ⟨tool,check,scan⟩ where
  check h := by simp only [check,targets_eq h,h.checkTargets]
  scan program h := by
    simp only [scan,Settings.ofConfig,severityOf,targets_eq h,h.option,h.headers,h.flag,h.timeout]

end Nuclei

lemma Adapter.blind_of_mem {a : Adapter} (ha : a ∈ all) : a.Blind := by
  simp only [all,List.mem_cons,List.not_mem_nil,or_false] at ha
  obtain rfl | rfl | rfl | rfl | rfl := ha
  · exact Subfinder.blind
  · exact Nmap.blind
  · exact Httpx.blind
  · exact Gobuster.blind
  · exact Nuclei.blind

/-- The tools as scanners do not see it either. -/
theorem Adapter.blind_scanners {paths : ToolPaths} {isProgram : String → Bool} {s : Scanner}
    (hs : s ∈ scanners paths isProgram) : s.Blind := by
  obtain ⟨a,ha,rfl⟩ := List.mem_map.mp hs
  have blind := blind_of_mem ha
  intro c c' h
  exact ⟨congrArg Verification.ofExcept (blind.check h),blind.scan _ h⟩

end Recon
