import Recon.Proofs.Tool.Salvage
import Recon.Proofs.Tool.Scope
import Recon.Tool.Gobuster

/-! Reports put together at a line break. Readers go by lines, so the whole is read as its parts are, one after the
other; where a host counts once, or the first finding alone, the earlier part decides. -/
namespace Recon

open Text

lemma Text.reportLines_append (a b : List Char) : reportLines (a ++ '\n' :: b) = reportLines a ++ reportLines b := by
  rw [reportLines,rawLines_append,List.map_append,List.filter_append]
  rfl

lemma reportLines_joined (a b : String) :
    reportLines (a ++ "\n" ++ b).toList = reportLines a.toList ++ reportLines b.toList := by
  rw [String.toList_append,String.toList_append,List.append_assoc]
  exact reportLines_append a.toList b.toList

namespace Subfinder

/-- Hosts seen before are left out, or passed over from the start. -/
theorem filter_firstSightings {before seen all : List String}
    (both : ∀ host, host ∈ all ↔ host ∈ before ∨ host ∈ seen) (found : List Sighting) :
    (firstSightings seen found).filter (fun s => s.host ∉ before) = firstSightings all found := by
  induction found generalizing seen all with
  | nil => rfl
  | cons s found ih =>
    simp only [firstSightings,List.contains_iff_mem]
    by_cases old : s.host ∈ seen
    · rw [if_pos old,if_pos ((both s.host).mpr (.inr old)),ih both]
    · rw [if_neg old]
      by_cases known : s.host ∈ before
      · rw [if_pos ((both s.host).mpr (.inl known)),List.filter_cons_of_neg (by simpa using known)]
        refine ih fun host => ?_
        rw [both,List.mem_cons]
        refine or_congr_right' fun new => (or_iff_right ?_).symm
        rintro rfl
        exact new known
      · have new : s.host ∉ all := fun inside => ((both s.host).mp inside).elim known old
        rw [if_neg new,List.filter_cons_of_pos (by simpa using known)]
        refine congrArg (s :: ·) (ih fun host => ?_)
        rw [List.mem_cons,List.mem_cons,both,or_left_comm]

lemma firstSightings_append (seen : List String) (found later : List Sighting) :
    firstSightings seen (found ++ later) = firstSightings seen found ++
      (firstSightings seen later).filter (fun s => s.host ∉ (firstSightings seen found).map (·.host)) := by
  induction found generalizing seen with
  | nil => simp [firstSightings]
  | cons s found ih =>
    simp only [firstSightings,List.cons_append,List.contains_iff_mem]
    split
    · exact ih seen
    · have again : firstSightings (s.host :: seen) later =
          (firstSightings seen later).filter (fun t => t.host ∉ [s.host]) :=
        (filter_firstSightings (fun host => by simp) later).symm
      rw [ih,again,List.filter_filter,List.cons_append]
      refine congrArg (s :: _ ++ ·) (List.filter_congr fun t _ => ?_)
      rw [Bool.eq_iff_iff]
      simp only [Bool.and_eq_true,decide_eq_true_eq,List.map_cons,List.mem_cons,List.not_mem_nil,or_false,not_or]
      exact and_comm

lemma nodup_hosts_firstSightings (seen : List String) (found : List Sighting) :
    ((firstSightings seen found).map (·.host)).Nodup := by
  induction found generalizing seen with
  | nil => exact List.nodup_nil
  | cons s found ih =>
    rw [firstSightings]
    split
    · exact ih seen
    · refine List.nodup_cons.mpr ⟨fun again => ?_,ih (s.host :: seen)⟩
      exact (mem_hosts_firstSightings.mp again).2 List.mem_cons_self

/-- What is kept of a host is the first that was seen of it. -/
theorem find?_of_mem_firstSightings {seen : List String} {found : List Sighting} {s : Sighting}
    (kept : s ∈ firstSightings seen found) : found.find? (·.host == s.host) = some s := by
  induction found generalizing seen with
  | nil => cases kept
  | cons t found ih =>
    have new : s.host ∉ seen := (mem_hosts_firstSightings.mp (List.mem_map_of_mem kept)).2
    rw [firstSightings] at kept
    split at kept
    · next old =>
      have other : t.host ≠ s.host := fun same => new (same ▸ by simpa using old)
      rw [List.find?_cons_of_neg (by simpa using other)]
      exact ih kept
    · obtain rfl | later := List.mem_cons.mp kept
      · exact List.find?_cons_of_pos (beq_self_eq_true _)
      · have other : t.host ≠ s.host := fun same =>
          (mem_hosts_firstSightings.mp (List.mem_map_of_mem later)).2 (same ▸ List.mem_cons_self)
        rw [List.find?_cons_of_neg (by simpa using other)]
        exact ih later

lemma readReport_joined (domain a b : String) : readReport domain (a ++ "\n" ++ b) = readReport domain a ++
    (readReport domain b).filter fun s => s.subdomain ∉ (readReport domain a).map (·.subdomain) := by
  simp only [readReport,sightings,reportLines_joined,List.filterMap_append,List.filter_append,firstSightings_append,
    List.map_append,List.filter_map,List.map_map]
  rfl

lemma nodup_subdomains (domain report : String) : ((readReport domain report).map (·.subdomain)).Nodup := by
  rw [readReport,List.map_map]
  exact nodup_hosts_firstSightings [] _

/-- A host is reported from the first line of all that names it. -/
theorem first_of_reported {domain report : String} {s : Subdomain} (reported : s ∈ readReport domain report) :
    ((reportLines report.toList).filterMap readLine).find? (·.host == s.subdomain) = some ⟨s.subdomain,s.source⟩ := by
  obtain ⟨t,kept,rfl⟩ := List.mem_map.mp reported
  have first := find?_of_mem_firstSightings kept
  have holds : occurs domain.toList t.host.toList = true := by
    have := List.mem_of_find?_eq_some first
    exact (List.mem_filter.mp this).2
  rw [List.find?_filter] at first
  rw [← first]
  refine congrArg (List.find? · _) (funext fun u => ?_)
  by_cases same : u.host = t.host
  · simp [same,holds]
  · simp [same]

end Subfinder

lemma Nuclei.readReport_joined (a b : String) : readReport (a ++ "\n" ++ b) = readReport a ++ readReport b := by
  rw [readReport,reportLines_joined,List.filterMap_append,List.filter_append]
  rfl

lemma Gobuster.readReport_joined (base a b : String) :
    readReport base (a ++ "\n" ++ b) = readReport base a ++ readReport base b := by
  rw [readReport,reportLines_joined,List.filterMap_append]
  rfl

lemma Httpx.readReport_joined (a b : String) :
    readReport (a ++ "\n" ++ b) = if (readReport a).url ≠ "" then readReport a else readReport b := by
  have empty_iff := url_readReport_eq_empty_iff a
  rw [readReport_eq (a ++ "\n" ++ b),reportLines_joined,List.findSome?_append]
  cases found : (reportLines a.toList).findSome? finding? with
  | none => rw [if_neg (not_not_intro (empty_iff.mpr found)),readReport_eq b,Option.none_or]
  | some w =>
    have told : (readReport a).url ≠ "" := fun empty => Option.some_ne_none w (found ▸ empty_iff.mp empty)
    rw [if_pos told,readReport_eq a,found]
    rfl

/-- Two reports with a line break between them are read as the one and then the other. Of subdomains only those that the
first does not have are added; in any report each host stands once, from the first line that names it. Of web servers
the first report decides unless it has no URL. -/
theorem joined_reports_read (a b : String) :
    Nuclei.readReport (a ++ "\n" ++ b) = Nuclei.readReport a ++ Nuclei.readReport b ∧
    (∀ base, Gobuster.readReport base (a ++ "\n" ++ b) = Gobuster.readReport base a ++ Gobuster.readReport base b) ∧
    (∀ domain, Subfinder.readReport domain (a ++ "\n" ++ b) = Subfinder.readReport domain a ++
      (Subfinder.readReport domain b).filter fun s =>
        s.subdomain ∉ (Subfinder.readReport domain a).map (·.subdomain)) ∧
    (∀ domain report, ((Subfinder.readReport domain report).map (·.subdomain)).Nodup ∧
      ∀ s ∈ Subfinder.readReport domain report,
        ((reportLines report.toList).filterMap Subfinder.readLine).find? (·.host == s.subdomain) =
          some ⟨s.subdomain,s.source⟩) ∧
    Httpx.readReport (a ++ "\n" ++ b) =
      if (Httpx.readReport a).url ≠ "" then Httpx.readReport a else Httpx.readReport b :=
  ⟨Nuclei.readReport_joined a b,fun base => Gobuster.readReport_joined base a b,
    fun domain => Subfinder.readReport_joined domain a b,
    fun domain report => ⟨Subfinder.nodup_subdomains domain report,fun _ => Subfinder.first_of_reported⟩,
    Httpx.readReport_joined a b⟩

/-- A host on a plain line, and again in a record of the second report that names another source. -/
theorem joined_reports_read_again :
    (Subfinder.readReport "b.c" ("WWW.b.c\r\n# done" ++ "\n" ++
      "\x7b\"host\":\"www.b.c\",\"source\":\"crt\"\x7d\na.b.c")).map (fun s => (s.subdomain,s.source)) =
        [("www.b.c","subfinder"),("a.b.c","subfinder")] ∧
    ((reportLines "www.b.c\n\x7b\"host\":\"www.b.c\",\"source\":\"crt\"\x7d".toList).filterMap Subfinder.readLine).find?
      (·.host == "www.b.c") = some ⟨"www.b.c","subfinder"⟩ := by
  obtain ⟨-,-,joined,kept,-⟩ := joined_reports_read "WWW.b.c\r\n# done"
    "\x7b\"host\":\"www.b.c\",\"source\":\"crt\"\x7d\na.b.c"
  refine ⟨by rw [joined]; rfl,?_⟩
  exact (kept "b.c" _).2 ⟨"b.c","www.b.c",[],"subfinder"⟩ List.mem_cons_self

end Recon
