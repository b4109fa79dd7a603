import Recon.Proofs.Text.Lines
import Recon.Proofs.Text.Lowercase
import Recon.Proofs.Tool.Scope
import Recon.Tool.Httpx

/-! Targets on standard input, one a line. They are read back just if each of them is a line. A subdomain that a report
names on a plain line always is one; that of a record may have line breaks, and then more is probed than was asked. -/
namespace Recon

open Text

namespace Subfinder

lemma isLine_lower {cs line : List Char} (inside : line ∈ reportLines cs) : IsLine (lower line) := by
  obtain ⟨raw,cut,rfl⟩ := List.mem_map.mp (List.mem_of_mem_filter inside)
  refine ⟨fun broken => ?_,fun last => ?_⟩
  · exact not_mem_of_mem_rawLines cut ((trim_isInfix raw).subset (mem_of_mem_lower broken (by decide)))
  · exact absurd ((trimmed_trim raw).lower.last _ last) (by decide)

/-- The subdomains in a report are lines just if the hosts of its records are, so far as they are reported. -/
theorem isLine_of_reported_iff (domain report : String) :
    (∀ s ∈ readReport domain report, IsLine s.subdomain.toList) ↔
      ∀ line ∈ reportLines report.toList, ∀ host source,
        Decode.document (recordFields.decode .json) (Json.read line) = .ok (host,source) →
          domain.toList <:+: host.toList → IsLine host.toList := by
  constructor
  · intro reported line inside host source read holds
    obtain ⟨s,found,rfl⟩ := List.mem_map.mp ((mem_reported_iff domain report host).mpr ⟨⟨line,inside,.record read⟩,holds⟩)
    exact reported s found
  · intro records s found
    obtain ⟨⟨line,inside,named⟩,holds⟩ := (mem_reported_iff domain report s.subdomain).mp (List.mem_map_of_mem found)
    generalize s.subdomain = host at named holds
    cases named with
    | record read => exact records line inside _ _ read holds
    | plain => exact String.toList_ofList ▸ isLine_lower inside

end Subfinder

namespace ScanConfig

variable (c : ScanConfig)

lemma checkBase_eq_ok_iff :
    c.checkBase = .ok () ↔ c.projectId ≠ 0 ∧ ∃ d ∈ c.target.toList, isBlank d = false := by
  have visible_iff : (trim c.target.toList).isEmpty = false ↔ ∃ d ∈ c.target.toList, isBlank d = false := by
    rw [Bool.eq_false_iff,ne_eq,List.isEmpty_iff,trim_eq_nil_iff]
    simp
  rw [checkBase,← visible_iff]
  split
  · next zero => simp [zero]
  · next project => cases (trim c.target.toList).isEmpty <;> simp [project]

lemma checkTargets_eq_ok_iff (targets : List String) : c.checkTargets targets = .ok () ↔
    c.projectId ≠ 0 ∧ (∃ d ∈ c.target.toList, isBlank d = false) ∧ targets ≠ [] := by
  rw [← and_assoc,← checkBase_eq_ok_iff,checkTargets]
  cases c.checkBase with
  | error e => simp
  | ok => cases targets <;> simp

end ScanConfig

namespace Httpx

/-- The hosts to probe. -/
def hosts (c : ScanConfig) : List String :=
  if c.knownSubdomains.isEmpty then [Target.host c.target] else c.knownSubdomains.map (·.subdomain)

lemma targets_ne_nil_of_check {c : ScanConfig} (accepted : check c = .ok ()) : targets c ≠ [] :=
  ((c.checkTargets_eq_ok_iff _).mp accepted).2.2

/-- The targets are the hosts under both schemes. -/
theorem mem_targets_iff {c : ScanConfig} (filled : targets c ≠ []) {target : String} :
    target ∈ targets c ↔ ∃ host ∈ hosts c, target ∈ Target.bothSchemes host := by
  by_cases none : c.knownSubdomains = []
  · have urls : c.subdomainUrls = [] := by
      rw [ScanConfig.subdomainUrls,none]
      rfl
    rw [targets,urls,if_pos List.isEmpty_nil,Target.urls] at filled ⊢
    have named : Target.host c.target ≠ "" := fun blank => filled (if_pos blank)
    rw [if_neg named,hosts,none,if_pos List.isEmpty_nil]
    simp only [List.mem_singleton,exists_eq_left]
  · have urls : c.subdomainUrls ≠ [] := by
      obtain ⟨s,found⟩ := List.exists_mem_of_ne_nil _ none
      exact List.ne_nil_of_mem (List.mem_flatMap.mpr ⟨s,found,List.mem_cons_self⟩)
    rw [targets,if_neg (by simpa using urls),List.mem_eraseDups,ScanConfig.subdomainUrls,List.mem_flatMap,hosts,
      if_neg (by simpa using none)]
    simp only [List.mem_map,exists_exists_and_eq_and]
    rfl

lemma isLine_bothSchemes_iff (host : String) :
    (∀ url ∈ Target.bothSchemes host, IsLine url.toList) ↔ IsLine host.toList := by
  have plain : IsLine "http://".toList := ⟨by decide,by decide⟩
  have secure : IsLine "https://".toList := ⟨by decide,by decide⟩
  rw [Target.bothSchemes,List.forall_mem_cons,List.forall_mem_singleton,String.toList_append,String.toList_append,
    plain.append_iff,secure.append_iff,and_self_iff]

lemma isLine_targets_iff {c : ScanConfig} (filled : targets c ≠ []) :
    (∀ url ∈ targets c, IsLine url.toList) ↔ ∀ host ∈ hosts c, IsLine host.toList := by
  constructor
  · intro urls host named
    exact (isLine_bothSchemes_iff host).mp fun url under => urls url ((mem_targets_iff filled).mpr ⟨host,named,under⟩)
  · intro lines url inside
    obtain ⟨host,named,under⟩ := (mem_targets_iff filled).mp inside
    exact (isLine_bothSchemes_iff host).mpr (lines host named) url under

lemma toList_stdin (ts : List String) : (stdin ts).toList = ['\n'].intercalate (ts.map String.toList) ++ ['\n'] := by
  rw [stdin,String.toList_append,String.toList_intercalate]
  rfl

/-- A configuration for a domain, after a stage that reported on it. -/
def afterReport (domain report : String) : ScanConfig := (ScanConfig.create 1 domain).withParents
  [.completed "subfinder" .subdomain domain default (.subdomains (Subfinder.readReport domain report))]

lemma knownSubdomains_afterReport (domain report : String) :
    (afterReport domain report).knownSubdomains = Subfinder.readReport domain report := List.append_nil _

/-- What the program reads are the lines of every target in turn. These are the targets just if every host is a line:
the bare host of the target, or every known subdomain. If a report named the subdomains, the hosts of its records
decide, for those on plain lines are lines. -/
theorem targets_read_back (program : String) {c : ScanConfig} (accepted : check c = .ok ()) :
    (∀ call limit next, scan program c = .launch call limit next → call.stdin = some (stdin (targets c))) ∧
    lines (stdin (targets c)).toList = (targets c).flatMap (fun t => (rawLines t.toList).map dropReturn) ∧
    (lines (stdin (targets c)).toList = (targets c).map String.toList ↔ ∀ host ∈ hosts c, IsLine host.toList) ∧
    (∀ domain report, c.knownSubdomains ≠ [] →
      c.knownSubdomains.map (·.subdomain) = (Subfinder.readReport domain report).map (·.subdomain) →
      (lines (stdin (targets c)).toList = (targets c).map String.toList ↔
        ∀ line ∈ reportLines report.toList, ∀ host source,
          Decode.document (Subfinder.recordFields.decode .json) (Json.read line) = .ok (host,source) →
            domain.toList <:+: host.toList → IsLine host.toList)) := by
  have filled := targets_ne_nil_of_check accepted
  have filled' : (targets c).map String.toList ≠ [] := by simpa using filled
  have exact_iff : lines (stdin (targets c)).toList = (targets c).map String.toList ↔
      ∀ host ∈ hosts c, IsLine host.toList := by
    rw [toList_stdin,lines_intercalate_eq_iff filled',List.forall_mem_map,isLine_targets_iff filled]
  refine ⟨fun call limit next started => by rw [Tool.command_of_executeThen started],?_,exact_iff,
    fun domain report known same => ?_⟩
  · rw [toList_stdin,lines_intercalate filled',List.flatMap_map]
  · rw [exact_iff,← Subfinder.isLine_of_reported_iff,hosts,if_neg (by simpa using known),same,List.forall_mem_map]

/-- Hosts on a plain line and in a record. -/
theorem targets_read_back_mixed :
    check (afterReport "b.c" "WWW.b.c\r\n\x7b\"host\":\"a.b.c\"\x7d") = .ok () ∧
    lines (stdin (targets (afterReport "b.c" "WWW.b.c\r\n\x7b\"host\":\"a.b.c\"\x7d"))).toList =
      ["http://www.b.c".toList,"https://www.b.c".toList,"http://a.b.c".toList,"https://a.b.c".toList] := by
  have accepted : check (afterReport "b.c" "WWW.b.c\r\n\x7b\"host\":\"a.b.c\"\x7d") = .ok () := rfl
  obtain ⟨-,-,-,reported⟩ := targets_read_back "httpx" accepted
  refine ⟨accepted,(reported "b.c" _ (by decide) (congrArg _ (knownSubdomains_afterReport _ _))).mpr ?_⟩
  have cut : reportLines "WWW.b.c\r\n\x7b\"host\":\"a.b.c\"\x7d".toList =
    ["WWW.b.c".toList,"\x7b\"host\":\"a.b.c\"\x7d".toList] := rfl
  rw [cut,List.forall_mem_cons,List.forall_mem_singleton]
  refine ⟨nofun,fun host source read _ => ?_⟩
  cases read
  exact ⟨by decide,by decide⟩

/-- The line feed at the end of a host is kept, so two targets come to four lines. -/
theorem line_feed_probed :
    (Subfinder.readReport "b.c" "\x7b\"host\":\"a.b.c\\n\"\x7d").map (·.subdomain) = ["a.b.c\n"] ∧
    check (afterReport "b.c" "\x7b\"host\":\"a.b.c\\n\"\x7d") = .ok () ∧
    targets (afterReport "b.c" "\x7b\"host\":\"a.b.c\\n\"\x7d") = ["http://a.b.c\n","https://a.b.c\n"] ∧
    lines (stdin ["http://a.b.c\n","https://a.b.c\n"]).toList =
      ["http://a.b.c".toList,[],"https://a.b.c".toList,[]] := by
  exact ⟨rfl,rfl,rfl,rfl⟩

end Httpx
end Recon
