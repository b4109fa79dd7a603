import Mathlib.Data.List.Sort
import Recon.Proofs.Engine.Started
import Recon.Proofs.Tool.Feed
import Recon.Tool.Gobuster
import Recon.Tool.Nuclei

/-! The URLs that a tool goes at are those that results of earlier stages contribute, each once and in the order in
which they come up first. Only without any of them it is the target itself. -/
namespace Recon

open Text

/-- The entries of a list, each once, in the order of their first occurrences. -/
structure Firsts {α : Type} [DecidableEq α] (all firsts : List α) : Prop where
  mem_iff : ∀ a, a ∈ firsts ↔ a ∈ all
  ordered : firsts.Pairwise fun a b => all.idxOf a < all.idxOf b

section Firsts

variable {α : Type} [DecidableEq α] {all firsts : List α}

lemma Firsts.nodup (h : Firsts all firsts) : firsts.Nodup :=
  h.ordered.imp fun before same => (same ▸ before).false

lemma Firsts.unique {firsts' : List α} (h : Firsts all firsts) (h' : Firsts all firsts') : firsts = firsts' := by
  have irrefl : Std.Irrefl fun a b => all.idxOf a < all.idxOf b := ⟨fun _ => lt_irrefl _⟩
  have antisymm : Std.Antisymm fun a b => all.idxOf a < all.idxOf b :=
    ⟨fun _ _ before after => absurd before after.asymm⟩
  exact h.ordered.eq_of_mem_iff h'.ordered fun a => (h.mem_iff a).trans (h'.mem_iff a).symm

lemma firsts_eraseDups (all : List α) : Firsts all all.eraseDups where
  mem_iff _ := List.mem_eraseDups
  ordered := by
    induction all using List.reverseRecOn with
    | nil => exact .nil
    | append_singleton all a ih =>
      have kept : all.eraseDups.Pairwise fun b d => (all ++ [a]).idxOf b < (all ++ [a]).idxOf d := by
        refine ih.imp_of_mem fun old old' before => ?_
        rwa [List.idxOf_append_of_mem (List.mem_eraseDups.mp old),List.idxOf_append_of_mem (List.mem_eraseDups.mp old')]
      rw [List.eraseDups_append]
      by_cases seen : a ∈ all
      · have nothing : [a].removeAll all = [] := by simp [List.removeAll,seen]
        rwa [nothing,List.eraseDups_nil,List.append_nil]
      · have new : [a].removeAll all = [a] := by simp [List.removeAll,seen]
        rw [new,List.pairwise_append]
        refine ⟨kept,List.pairwise_singleton _ _,fun b old d last => ?_⟩
        have inside : b ∈ all := List.mem_eraseDups.mp old
        obtain rfl : d = a := by simpa using last
        rw [List.idxOf_append_of_mem inside,List.idxOf_append_of_notMem seen]
        exact Nat.lt_add_right _ (List.idxOf_lt_length_of_mem inside)

end Firsts

lemma Target.nodup_urls (target : String) : (urls target).Nodup := by
  unfold urls
  split
  · exact List.nodup_nil
  · refine List.nodup_cons.mpr ⟨fun same => ?_,List.nodup_singleton _⟩
    have lengths := congrArg String.length (List.mem_singleton.mp same)
    rw [String.length_append,String.length_append,Nat.add_right_cancel_iff] at lengths
    exact absurd lengths (by decide)

lemma flatMap_filter {α β : Type} (p : α → Bool) (f : α → List β) (as : List α) :
    (as.filter p).flatMap f = as.flatMap fun a => if p a then f a else [] := by
  induction as with
  | nil => rfl
  | cons a as ih =>
    rw [List.filter_cons,List.flatMap_cons,← ih]
    split <;> rfl

namespace ScanResult

/-- The subdomains in a result of its category under both schemes. -/
def subdomainUrls (r : ScanResult) : List String :=
  match r.category,r.payload with
  | .subdomain,some (.subdomains found) => found.flatMap fun s => ["http://" ++ s.subdomain,"https://" ++ s.subdomain]
  | _,_ => []

/-- The URL in a result of its category, if there is one and the server is wanted. -/
def serverUrls (wanted : WebTech → Bool) (r : ScanResult) : List String :=
  match r.category,r.payload with
  | .webTech,some (.webTech w) => if w.url ≠ "" ∧ wanted w then [w.url] else []
  | _,_ => []

lemma source_of_mem_subdomainUrls {r : ScanResult} {url : String} (h : url ∈ r.subdomainUrls) :
    r.category = .subdomain ∧ ∃ found, r.payload = some (.subdomains found) := by
  unfold subdomainUrls at h
  split at h
  · next found category payload => exact ⟨category,found,payload⟩
  · cases h

lemma source_of_mem_serverUrls {wanted : WebTech → Bool} {r : ScanResult} {url : String}
    (h : url ∈ r.serverUrls wanted) : r.category = .webTech ∧ ∃ w, r.payload = some (.webTech w) := by
  unfold serverUrls at h
  split at h
  · next w category payload => exact ⟨category,w,payload⟩
  · cases h

end ScanResult

namespace ScanConfig

variable (c : ScanConfig)

lemma subdomainUrls_eq : c.subdomainUrls = c.parents.flatMap ScanResult.subdomainUrls := by
  rw [subdomainUrls,knownSubdomains,parentsOf,List.flatMap_assoc,flatMap_filter]
  refine congrArg (List.flatMap · _) (funext fun r => ?_)
  rcases r with ⟨-,category,-,-,-,-,-,-,_ | payload⟩
  · cases category <;> rfl
  · cases category <;> cases payload <;> rfl

lemma knownServers_eq (wanted : WebTech → Bool) :
    (c.knownWebTech.filter fun w => w.url != "" && wanted w).map (·.url) =
      c.parents.flatMap (ScanResult.serverUrls wanted) := by
  rw [knownWebTech,parentsOf,List.filterMap_eq_flatMap_toList,flatMap_filter,List.filter_flatMap,List.map_flatMap]
  refine congrArg (List.flatMap · _) (funext fun r => ?_)
  rcases r with ⟨-,category,-,-,-,-,-,-,_ | payload⟩
  · cases category <;> rfl
  · cases category <;> cases payload <;> try rfl
    next w =>
      change ([w].filter _).map _ = if w.url ≠ "" ∧ wanted w then [w.url] else []
      simp only [List.filter_cons,List.filter_nil,Bool.and_eq_true,bne_iff_ne]
      split <;> rfl

end ScanConfig

section StartsOnly

variable {S : Command → Prop} {t : Tool} {args : List String} {stdin : Option String} {timeout : Duration}

lemma Tool.execute_startsOnly {next : Except ScanError String → Job} (call : S ⟨t.program,args,stdin⟩)
    (rest : ∀ output, (next output).StartsOnly S) : (t.execute args stdin timeout next).StartsOnly S := by
  unfold execute
  split
  · exact rest _
  · exact ⟨call,fun report => rest _⟩

lemma Tool.executeThen_startsOnly {read : String → Job} (call : S ⟨t.program,args,stdin⟩)
    (rest : ∀ output, (read output).StartsOnly S) : (t.executeThen args stdin timeout read).StartsOnly S := by
  refine execute_startsOnly call fun output => ?_
  cases output with
  | error e => trivial
  | ok output => exact rest output

end StartsOnly

/-- A command that is told one of the targets, by its arguments or on its input. -/
def Command.Told (targets : List String) (call : Command) : Prop := ∃ url ∈ targets,
  ["-u",url] <:+: call.args ∨ ∃ text, call.stdin = some text ∧ url.toList <:+: text.toList

/-- The tools that go at what earlier stages found. -/
inductive Prober where
  | httpx | gobuster | nuclei

namespace Prober

def targets : Prober → ScanConfig → List String
  | httpx => Httpx.targets
  | gobuster => Gobuster.targets
  | nuclei => Nuclei.targets

def check : Prober → ScanConfig → Except ScanError Unit
  | httpx => Httpx.check
  | gobuster => Gobuster.check
  | nuclei => Nuclei.check

def scan : Prober → String → ScanConfig → Job
  | httpx => Httpx.scan
  | gobuster => Gobuster.scan
  | nuclei => Nuclei.scan

/-- The categories of the results that count, -/
def categories : Prober → List Category
  | httpx => [.subdomain]
  | gobuster => [.webTech]
  | nuclei => [.webTech,.subdomain]

/-- and what is taken of each such result. All results are gone through for one of these before the next. -/
def passes : Prober → List (ScanResult → List String)
  | httpx => [ScanResult.subdomainUrls]
  | gobuster => [ScanResult.serverUrls fun w => 200 ≤ w.statusCode ∧ w.statusCode ≤ 399]
  | nuclei => [ScanResult.serverUrls fun _ => true,ScanResult.subdomainUrls]

/-- What results contribute, with repetitions. -/
def contributed (p : Prober) (results : List ScanResult) : List String := p.passes.flatMap results.flatMap

/-- A result without data, of a category that does not count, or with data of another kind. -/
def Ignores (p : Prober) (r : ScanResult) : Prop :=
  r.payload = none ∨ r.category ∉ p.categories ∨ ∃ data, r.payload = some data ∧ ¬ r.category.accepts data

variable (p : Prober) (c : ScanConfig)

lemma targets_eq : p.targets c =
    if p.contributed c.parents = [] then Target.urls c.target else (p.contributed c.parents).eraseDups := by
  cases p with
  | httpx =>
    simp only [targets,Httpx.targets,List.isEmpty_iff]
    rw [ScanConfig.subdomainUrls_eq,contributed,passes,List.flatMap_singleton]
  | gobuster =>
    have reachable (w : WebTech) : w.isReachable = decide (200 ≤ w.statusCode ∧ w.statusCode ≤ 399) := by
      rw [Bool.eq_iff_iff,decide_eq_true_eq,UInt16.le_iff_toNat_le,UInt16.le_iff_toNat_le]
      simp only [WebTech.isReachable,Bool.and_eq_true,decide_eq_true_eq]
      exact and_congr_right' Nat.lt_succ_iff
    simp only [targets,Gobuster.targets,List.isEmpty_iff]
    simp only [reachable]
    rw [ScanConfig.knownServers_eq c fun w => decide (200 ≤ w.statusCode ∧ w.statusCode ≤ 399),contributed,passes,
      List.flatMap_singleton]
  | nuclei =>
    have any : c.knownWebTech.filter (fun w => w.url != "") = c.knownWebTech.filter fun w => w.url != "" && true := by
      simp only [Bool.and_true]
    simp only [targets,Nuclei.targets,List.isEmpty_iff]
    rw [any,ScanConfig.knownServers_eq c fun _ => true,ScanConfig.subdomainUrls_eq,contributed,passes,List.flatMap_cons,
      List.flatMap_singleton]

variable {p}

lemma source_of_mem_pass {pass : ScanResult → List String} (listed : pass ∈ p.passes) {r : ScanResult} {url : String}
    (h : url ∈ pass r) : r.category ∈ p.categories ∧ ∃ data, r.payload = some data ∧ r.category.accepts data := by
  have subdomain (counts : .subdomain ∈ p.categories) (h : url ∈ r.subdomainUrls) :
      r.category ∈ p.categories ∧ ∃ data, r.payload = some data ∧ r.category.accepts data := by
    obtain ⟨category,found,payload⟩ := ScanResult.source_of_mem_subdomainUrls h
    exact ⟨category ▸ counts,_,payload,by rw [category]; rfl⟩
  have server {wanted : WebTech → Bool} (counts : .webTech ∈ p.categories) (h : url ∈ r.serverUrls wanted) :
      r.category ∈ p.categories ∧ ∃ data, r.payload = some data ∧ r.category.accepts data := by
    obtain ⟨category,w,payload⟩ := ScanResult.source_of_mem_serverUrls h
    exact ⟨category ▸ counts,_,payload,by rw [category]; rfl⟩
  cases p with
  | httpx =>
    obtain rfl := List.mem_singleton.mp listed
    exact subdomain (by decide) h
  | gobuster =>
    obtain rfl := List.mem_singleton.mp listed
    exact server (by decide) h
  | nuclei =>
    obtain rfl | last := List.mem_cons.mp listed
    · exact server (by decide) h
    · obtain rfl := List.mem_singleton.mp last
      exact subdomain (by decide) h

lemma eq_nil_of_ignores {r : ScanResult} (ignored : p.Ignores r) {pass : ScanResult → List String}
    (listed : pass ∈ p.passes) : pass r = [] := by
  refine List.eq_nil_iff_forall_not_mem.mpr fun url inside => ?_
  obtain ⟨category,data,payload,accepted⟩ := source_of_mem_pass listed inside
  obtain missing | other | ⟨data',payload',refused⟩ := ignored
  · cases missing.symm.trans payload
  · exact other category
  · cases payload.symm.trans payload'
    exact refused accepted

lemma contributed_of_ignores {r : ScanResult} (ignored : p.Ignores r) (before after : List ScanResult) :
    p.contributed (before ++ r :: after) = p.contributed (before ++ after) := by
  refine List.flatMap_congr fun pass listed => ?_
  rw [List.flatMap_append,List.flatMap_append,List.flatMap_cons,eq_nil_of_ignores ignored listed,List.nil_append]

variable (p)

lemma check_eq_ok_iff : p.check c = .ok () ↔
    c.projectId ≠ 0 ∧ (∃ d ∈ c.target.toList, isBlank d = false) ∧ p.targets c ≠ [] := by
  cases p <;> exact c.checkTargets_eq_ok_iff _

end Prober

lemma Httpx.told_stdin {targets : List String} (filled : targets ≠ []) (program : String) (args : List String) :
    Command.Told targets ⟨program,args,some (stdin targets)⟩ := by
  obtain ⟨url,rest,rfl⟩ := List.exists_cons_of_ne_nil filled
  refine ⟨url,List.mem_cons_self,.inr ⟨_,rfl,?_⟩⟩
  have leads : url.toList <+: ['\n'].intercalate (url.toList :: rest.map String.toList) := by
    cases rest with
    | nil => rw [List.map_nil,List.intercalate_singleton]
    | cons next rest =>
      rw [List.map_cons,List.intercalate_cons_cons,List.append_assoc]
      exact List.prefix_append _ _
  rw [toList_stdin,List.map_cons]
  exact (leads.trans (List.prefix_append _ _)).isInfix

lemma Nuclei.told_args {targets : List String} (filled : targets ≠ []) (program : String) (c : ScanConfig) :
    Command.Told targets ⟨program,(Settings.ofConfig targets c).args,none⟩ := by
  obtain ⟨url,inside⟩ := List.exists_mem_of_ne_nil _ filled
  have passed : ["-u",url] <:+: targets.flatMap fun t => ["-u",t] :=
    List.infix_of_mem_flatten (List.mem_map_of_mem inside)
  exact ⟨url,inside,.inl (passed.trans (List.suffix_append _ _).isInfix)⟩

lemma Gobuster.told_args {targets : List String} {url : String} (inside : url ∈ targets) (program : String)
    (c : ScanConfig) : Command.Told targets ⟨program,(Settings.ofConfig url c).args,none⟩ :=
  ⟨url,inside,.inl ⟨["dir"],_,rfl⟩⟩

lemma Gobuster.scanAll_startsOnly {S : Command → Prop} (program : String) (c : ScanConfig) {urls : List String}
    (calls : ∀ url ∈ urls, S ⟨program,(Settings.ofConfig url c).args,none⟩) (found : List WebPath) :
    (scanAll program c found urls).StartsOnly S := by
  induction urls generalizing found with
  | nil => trivial
  | cons url urls ih =>
    obtain ⟨first,rest⟩ := List.forall_mem_cons.mp calls
    refine Tool.execute_startsOnly first fun output => ?_
    cases output with
    | error e => exact ih rest found
    | ok output => exact ih rest _

namespace Prober

variable {p : Prober} {c : ScanConfig}

lemma told_of_targets (filled : p.targets c ≠ []) (program : String) :
    (p.scan program c).StartsOnly (Command.Told (p.targets c)) := by
  cases p with
  | httpx => exact Tool.executeThen_startsOnly (Httpx.told_stdin filled _ _) fun _ => trivial
  | gobuster =>
    exact Gobuster.scanAll_startsOnly program c (fun url inside => Gobuster.told_args inside program c) []
  | nuclei => exact Tool.executeThen_startsOnly (Nuclei.told_args filled _ c) fun _ => trivial

end Prober

/-- A tool goes at what earlier stages contribute, each URL once and in the order of first occurrences, whatever the
target is; if nothing is contributed, at the host of the target under both schemes. A result without data, of a category
that does not count or with data of another kind may as well not be there. A configuration is accepted just if its
project is not zero, its target not blank and there is a URL to go at, and then every command started is told one. -/
theorem targets_derived (p : Prober) (c : ScanConfig) :
    (p.targets c).Nodup ∧
    (p.contributed c.parents ≠ [] → (∀ urls, Firsts (p.contributed c.parents) urls ↔ urls = p.targets c) ∧
      ∀ target, p.targets { c with target := target } = p.targets c) ∧
    (p.contributed c.parents = [] → p.targets c = if Target.host c.target = "" then []
      else ["http://" ++ Target.host c.target,"https://" ++ Target.host c.target]) ∧
    (∀ before r after, c.parents = before ++ r :: after → p.Ignores r →
      p.targets (c.withParents (before ++ after)) = p.targets c) ∧
    (p.check c = .ok () ↔ c.projectId ≠ 0 ∧ (∃ d ∈ c.target.toList, isBlank d = false) ∧ p.targets c ≠ []) ∧
    (p.check c = .ok () → ∀ program (σ : Type) (w : World σ) l now memory,
      ∀ e ∈ (p.scan program c).started w l now memory, e.1.Told (p.targets c)) := by
  have firsts := firsts_eraseDups (p.contributed c.parents)
  refine ⟨?nodup,fun filled => ⟨fun urls => ?_,fun target => ?_⟩,fun empty => ?_,
    fun before r after parents ignored => ?_,p.check_eq_ok_iff c,
    fun accepted program σ w l now memory => ?_⟩
  case nodup =>
    rw [p.targets_eq]
    split
    · exact Target.nodup_urls c.target
    · exact firsts.nodup
  · rw [p.targets_eq,if_neg filled]
    exact ⟨fun told => told.unique firsts,fun same => same ▸ firsts⟩
  · rw [p.targets_eq,p.targets_eq,if_neg filled,if_neg filled]
  · rw [p.targets_eq,if_pos empty]
    rfl
  · rw [p.targets_eq,p.targets_eq c,ScanConfig.withParents,parents,Prober.contributed_of_ignores ignored]
  · exact (Prober.told_of_targets ((p.check_eq_ok_iff c).mp accepted).2.2 program).started l now memory

/-- A configuration after a subdomain, a server that was not found there and a server from a scan for subdomains. -/
def scouted : ScanConfig := (ScanConfig.create 1 "a.b").withParents [
  .completed "subfinder" .subdomain "a.b" default (.subdomains [{ domain := "a.b",subdomain := "w.a.b",source := "" }]),
  .completed "httpx" .webTech "a.b" default (.webTech { url := "http://w.a.b",statusCode := 404 }),
  .completed "httpx" .subdomain "a.b" default (.webTech { url := "http://a.b",statusCode := 200 })]

/-- The server comes first although its result does not, and counts once; for a tool that wants it reachable there is
the target alone. -/
theorem targets_derived_scouted :
    Prober.nuclei.targets scouted = ["http://w.a.b","https://w.a.b"] ∧
    Prober.nuclei.targets (scouted.withParents (scouted.parents.take 2)) = ["http://w.a.b","https://w.a.b"] ∧
    (∀ e ∈ (Prober.nuclei.scan "nuclei" scouted).started World.still ⟨none,none⟩ 0 (),
      e.1.Told ["http://w.a.b","https://w.a.b"]) ∧
    Prober.gobuster.targets scouted = ["http://a.b","https://a.b"] := by
  obtain ⟨-,known,-,ignored,-,told⟩ := targets_derived .nuclei scouted
  have contributed : Prober.nuclei.contributed scouted.parents =
    ["http://w.a.b","http://w.a.b","https://w.a.b"] := by decide
  have targets : ["http://w.a.b","https://w.a.b"] = Prober.nuclei.targets scouted :=
    ((known (by decide)).1 _).mp ⟨fun url => by simp [contributed],by decide⟩
  refine ⟨targets.symm,?_,targets ▸ told rfl "nuclei" Unit World.still ⟨none,none⟩ 0 (),?_⟩
  · exact (ignored (scouted.parents.take 2) _ [] rfl (.inr (.inr ⟨_,rfl,by decide⟩))).trans targets.symm
  · exact (targets_derived .gobuster scouted).2.2.1 (by decide)

end Recon
