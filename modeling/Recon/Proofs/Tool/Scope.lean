import Mathlib.Data.List.Infix
import Recon.Tool.Subfinder

/-! What a report on subdomains lets through. A host is kept when the domain stands somewhere in it: of what lies in the
domain nothing is missed, but a name that only begins with the domain or has it in the middle passes too. -/
namespace Recon

lemma Text.occurs_iff_infix {needle cs : List Char} : occurs needle cs = true ↔ needle <:+: cs := by
  induction cs with
  | nil => rw [occurs,List.isEmpty_iff,List.infix_nil]
  | cons c cs ih => rw [occurs,Bool.or_eq_true,List.isPrefixOf_iff_prefix,ih,List.infix_cons_iff]

namespace Subfinder

/-- The domain itself, or something and a dot before it. -/
def InScope (domain host : String) : Prop := host = domain ∨ '.' :: domain.toList <:+ host.toList

instance (domain host : String) : Decidable (InScope domain host) := inferInstanceAs (Decidable (_ ∨ _))

/-- The host that a line names: that of a record, or the line in lower case unless it looks like a broken record. -/
inductive Names (line : List Char) : String → Prop
  | record {host source : String}
      (read : Decode.document (recordFields.decode .json) (Json.read line) = .ok (host,source)) : Names line host
  | plain {fault : Fault} (unread : Decode.document (recordFields.decode .json) (Json.read line) = .error fault)
      (unlike : line.head? ≠ some '\x7b') : Names line (String.ofList (Text.lower line))

lemma InScope.occurs_in {domain host : String} (h : InScope domain host) : domain.toList <:+: host.toList := by
  obtain rfl | last := h
  · exact List.infix_refl _
  · exact (List.suffix_cons '.' domain.toList).isInfix.trans last.isInfix

lemma names_iff {line : List Char} {host : String} : Names line host ↔ host ∈ (readLine line).map (·.host) := by
  unfold readLine
  constructor
  · rintro (read | ⟨unread,unlike⟩)
    · rw [read]
      rfl
    · rw [unread]
      simp [unlike]
  · split
    · next found source read =>
      intro h
      obtain rfl : found = host := Option.some.inj h
      exact .record read
    · next fault unread =>
      split
      · intro h
        cases h
      · next unlike =>
        intro h
        obtain rfl : String.ofList (Text.lower line) = host := Option.some.inj h
        exact .plain unread (by simpa using unlike)

/-- Of sightings of one host the first is kept. -/
theorem mem_hosts_firstSightings {seen : List String} {found : List Sighting} {host : String} :
    host ∈ (firstSightings seen found).map (·.host) ↔ host ∈ found.map (·.host) ∧ host ∉ seen := by
  induction found generalizing seen with
  | nil => simp [firstSightings]
  | cons s found ih =>
    rw [firstSightings]
    split
    · next old =>
      have old : s.host ∈ seen := by simpa using old
      rw [ih,List.map_cons,List.mem_cons]
      refine and_congr_left fun new => (or_iff_right ?_).symm
      rintro rfl
      exact new old
    · next new =>
      have new : s.host ∉ seen := by simpa using new
      rw [List.map_cons,List.map_cons,List.mem_cons,List.mem_cons,ih,List.mem_cons,not_or]
      by_cases same : host = s.host
      · simp [same,new]
      · simp [same]

lemma mem_reported_iff (domain report host : String) : host ∈ (readReport domain report).map (·.subdomain) ↔
    (∃ line ∈ Text.reportLines report.toList, Names line host) ∧ domain.toList <:+: host.toList := by
  have hosts : (readReport domain report).map (·.subdomain) = (sightings domain report).map (·.host) := by
    rw [readReport,List.map_map]
    rfl
  rw [hosts,sightings,mem_hosts_firstSightings]
  simp only [List.mem_map,List.mem_filter,List.mem_filterMap,Text.occurs_iff_infix,names_iff,Option.mem_def,
    Option.map_eq_some_iff,List.not_mem_nil,not_false_eq_true,and_true]
  constructor
  · rintro ⟨s,⟨⟨line,inside,read⟩,holds⟩,rfl⟩
    exact ⟨⟨line,inside,s,read,rfl⟩,holds⟩
  · rintro ⟨⟨line,inside,s,read,rfl⟩,holds⟩
    exact ⟨s,⟨⟨line,inside,read⟩,holds⟩,rfl⟩

/-- The hosts reported are those that a line names and that have the domain in them, wherever it stands. So none that
lies in the domain is missed, and the report keeps to the domain just if the lines do wherever they mention it. -/
theorem reported_if_mentioned (domain report : String) :
    (∀ host, host ∈ (readReport domain report).map (·.subdomain) ↔
      (∃ line ∈ Text.reportLines report.toList, Names line host) ∧ domain.toList <:+: host.toList) ∧
    (∀ line ∈ Text.reportLines report.toList, ∀ host, Names line host → InScope domain host →
      host ∈ (readReport domain report).map (·.subdomain)) ∧
    ((∀ s ∈ readReport domain report, InScope domain s.subdomain) ↔
      ∀ line ∈ Text.reportLines report.toList, ∀ host, Names line host → domain.toList <:+: host.toList →
        InScope domain host) := by
  have reported := mem_reported_iff domain report
  refine ⟨reported,fun line inside host named scope => ?_,fun within line inside host named holds => ?_,
    fun kept s found => ?_⟩
  · exact (reported host).mpr ⟨⟨line,inside,named⟩,scope.occurs_in⟩
  · obtain ⟨s,found,rfl⟩ := List.mem_map.mp ((reported host).mpr ⟨⟨line,inside,named⟩,holds⟩)
    exact within s found
  · obtain ⟨⟨line,inside,named⟩,holds⟩ := (reported s.subdomain).mp (List.mem_map_of_mem found)
    exact kept line inside s.subdomain named holds

/-- A host of a record in scope, found among lines that name others. -/
theorem reported_if_mentioned_mail : "mail.example.com" ∈
    (readReport "example.com" "unrelated.org\n\x7b\"host\": \"mail.example.com\"\x7d\r\n").map (·.subdomain) := by
  have read : Decode.document (recordFields.decode .json)
      (Json.read "\x7b\"host\": \"mail.example.com\"\x7d".toList) = .ok ("mail.example.com","") := rfl
  exact (reported_if_mentioned "example.com" _).2.1 _ (by decide) _ (.record read) (by decide)

/-- A name that ends like the domain and one that begins with it are not in its scope, but are reported. -/
theorem foreign_hosts_reported :
    (readReport "example.com" "notexample.com\nexample.com.evil.org").map (·.subdomain) =
      ["notexample.com","example.com.evil.org"] ∧
    ¬ InScope "example.com" "notexample.com" ∧ ¬ InScope "example.com" "example.com.evil.org" := by
  refine ⟨?_,by decide,by decide⟩
  rfl

end Subfinder
end Recon
