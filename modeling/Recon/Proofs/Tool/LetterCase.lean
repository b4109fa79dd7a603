import Mathlib.Data.List.Nodup
import Mathlib.Data.List.Pairwise
import Recon.Proofs.Decode.Fields
import Recon.Proofs.Json.Line
import Recon.Proofs.Json.Reading
import Recon.Proofs.Json.Refused
import Recon.Proofs.Text.Lowercase
import Recon.Proofs.Tool.Joining

/-! Letter case of the hosts in a report on subdomains. A plain line is put in lower case, but the host of a record is
taken as it stands. So each name is reported once only up to the capitals in records, and a host has to be in lower case
for a record to stand in for its plain line. -/
namespace Recon

open Text

namespace Text

variable {cs line : List Char} {i : Nat}

/-- A text with another line in place of its line number `i`. -/
def replaceLine (cs : List Char) (i : Nat) (line : List Char) : List Char :=
  ['\n'].intercalate ((rawLines cs).set i line)

lemma reportLines_replaceLine (numbered : i < (rawLines cs).length) (unbroken : '\n' ∉ line) :
    reportLines (replaceLine cs i line) =
      reportLines (beforeLine cs i) ++ ([trim line].filter isContent ++ reportLines (afterLine cs i)) := by
  have all : ∀ l ∈ (rawLines cs).set i line, '\n' ∉ l := fun l inside =>
    (List.mem_or_eq_of_mem_set inside).elim not_mem_of_mem_rawLines fun same => same ▸ unbroken
  rw [replaceLine,reportLines_intercalate all,List.set_eq_take_append_cons_drop,if_pos numbered,reportLines_beforeLine,
    reportLines_afterLine,← List.filter_append,← List.filter_append,List.map_append,List.map_cons,List.singleton_append]

lemma toLower_eq_self {c : Char} (h : IsLower c) : c.toLower = c := by
  by_cases ascii : c.toNat < 128
  · have alone := h.alone
    rw [lowerChar,if_pos ascii] at alone
    exact (List.cons.inj alone).1
  · refine dif_neg fun capital => ascii ?_
    exact Nat.lt_of_le_of_lt (UInt32.le_iff_toNat_le.mp capital.2) (by decide)

end Text

/-- Two names that differ at most in the case of ASCII letters. -/
def SameLetters (g h : String) : Prop := g.toList.map Char.toLower = h.toList.map Char.toLower

instance (g h : String) : Decidable (SameLetters g h) := inferInstanceAs (Decidable (_ = _))

lemma SameLetters.symm {g h : String} (same : SameLetters g h) : SameLetters h g := Eq.symm same

/-- In lower case there is one way to spell a name. -/
theorem SameLetters.eq_of_lower {g h : String} (same : SameLetters g h) (lowerG : lower g.toList = g.toList)
    (lowerH : lower h.toList = h.toList) : g = h := by
  have plain {name : String} (small : lower name.toList = name.toList) : name.toList.map Char.toLower = name.toList := by
    conv_rhs => rw [← List.map_id name.toList]
    exact List.map_congr_left fun c inside => toLower_eq_self (isLower_of_mem_lower (small ▸ inside))
  unfold SameLetters at same
  rw [plain lowerG,plain lowerH] at same
  exact String.toList_inj.mp same

namespace Subfinder

/-- A name that can stand on a line of its own, as every name of a host can: without white space, and not beginning like
a comment, a record or a list. -/
structure HostName (name : String) : Prop where
  filled : name ≠ ""
  visible : ∀ c ∈ name.toList, isBlank c = false
  first : ∀ c, name.toList.head? = some c → c ≠ '#' ∧ c ≠ '[' ∧ c ≠ '\x7b'

/-- A record that names a host and no source. -/
def record (layout : Json.Layout) (name : String) : List Char := Json.print layout 0 (.table [("host",.text name)])

/-- A record names the host with letters that are not in lower case. -/
def Capitalized (report host : String) : Prop := lower host.toList ≠ host.toList ∧
  ∃ line ∈ reportLines report.toList, ∃ source,
    Decode.document (recordFields.decode .json) (Json.read line) = .ok (host,source)

section Lines

variable {name : String}

lemma HostName.not_mem {c : Char} (h : HostName name) (blank : isBlank c = true) : c ∉ name.toList := fun inside =>
  Bool.false_ne_true ((h.visible c inside).symm.trans blank)

lemma HostName.trim_eq (h : HostName name) : trim name.toList = name.toList :=
  trim_eq_self
    ⟨fun c lead => h.visible c (List.mem_of_head? lead),fun c final => h.visible c (List.mem_of_getLast? final)⟩

lemma HostName.exists_cons (h : HostName name) : ∃ c cs, name.toList = c :: cs ∧ isBlank c = false ∧ c ≠ '#' ∧
    c ≠ '[' ∧ c ≠ '\x7b' := by
  obtain ⟨c,cs,spelled⟩ := List.exists_cons_of_ne_nil (mt String.toList_eq_nil_iff.mp h.filled)
  exact ⟨c,cs,spelled,h.visible c (spelled ▸ List.mem_cons_self),h.first c (by rw [spelled]; rfl)⟩

lemma isBlank_of_isGap {c : Char} (h : Json.isGap c = true) : isBlank c = true := by
  simp only [Json.isGap,Bool.or_eq_true,beq_iff_eq] at h
  obtain ((rfl | rfl) | rfl) | rfl := h <;> rfl

/-- A name on a line of its own is read as a host in lower case. -/
theorem HostName.sightings_line (h : HostName name) : ([trim name.toList].filter isContent).filterMap readLine =
    [⟨String.ofList (lower name.toList),"subfinder"⟩] := by
  obtain ⟨c,cs,spelled,visible,comment,bracket,brace⟩ := h.exists_cons
  have gap : Json.isGap c = false := by
    refine Bool.eq_false_iff.mpr fun gap => ?_
    rw [isBlank_of_isGap gap] at visible
    cases visible
  have content : isContent (c :: cs) = true := by simpa [isContent] using comment
  have unread : Decode.document (recordFields.decode .json) (Json.read (c :: cs)) = .error .mismatch := by
    rw [Decode.document,Fields.decode_of_not_holds (Json.not_holds_read gap bracket brace cs)]
  have unlike : ((c :: cs).head? == some '\x7b') = false := by simpa using brace
  rw [h.trim_eq,spelled,List.filter_singleton,content,cond_true,List.filterMap_cons,readLine,unread]
  simp only [unlike,Bool.false_eq_true,if_false,List.filterMap_nil]

lemma newline_not_mem_record (name : String) : '\n' ∉ record Json.oneLine name :=
  Json.newline_not_mem_compact (List.forall_mem_singleton.mpr (Json.newline_not_mem_text name))

variable {layout : Json.Layout}

/-- A record is read as its host, with the letters as they are. -/
theorem sightings_record (blank : layout.Blank) (name : String) :
    ([trim (record layout name)].filter isContent).filterMap readLine = [⟨name,"subfinder"⟩] := by
  have trimmed : Trimmed (record layout name) := Json.trimmed_print_table layout 0 _
  have content : isContent (record layout name) = true := by
    obtain ⟨rest,spelled⟩ := List.head?_eq_some_iff.mp (Json.head?_print_table layout 0 [("host",.text name)])
    rw [record,spelled]
    rfl
  have tree : Json.read (record layout name) = ⟨.table [("host",.text name)],false⟩ :=
    Json.read_print blank (by simp [Json.Legible,Json.EntriesLegible])
  have read : Decode.document (recordFields.decode .json) (Json.read (record layout name)) = .ok (name,"") := by
    rw [tree]
    rfl
  rw [trim_eq_self trimmed,List.filter_singleton,content,cond_true,List.filterMap_cons,readLine,read]
  rfl

end Lines

section Reports

/-- The subdomains of a domain among sightings. -/
def reported (domain : String) (found : List Sighting) : List Subdomain :=
  (firstSightings [] (found.filter fun s => occurs domain.toList s.host.toList)).map fun s =>
    { domain := domain, subdomain := s.host, ips := [], source := s.source }

variable {domain : String} {cs line : List Char} {i : Nat}

/-- What a report with another line tells: the sightings of the lines around it, and between them its own. -/
theorem readReport_replaceLine (numbered : i < (rawLines cs).length) (unbroken : '\n' ∉ line) {own : List Sighting}
    (tells : ([trim line].filter isContent).filterMap readLine = own) :
    readReport domain (String.ofList (replaceLine cs i line)) = reported domain
      ((reportLines (beforeLine cs i)).filterMap readLine ++
        (own ++ (reportLines (afterLine cs i)).filterMap readLine)) := by
  rw [readReport,sightings,String.toList_ofList,reportLines_replaceLine numbered unbroken,List.filterMap_append,
    List.filterMap_append,tells]
  rfl

lemma reported_congr {before own own' after : List Sighting}
    (same : own.filter (fun s => occurs domain.toList s.host.toList) =
      own'.filter fun s => occurs domain.toList s.host.toList) :
    reported domain (before ++ (own ++ after)) = reported domain (before ++ (own' ++ after)) := by
  simp only [reported,List.filter_append,same]

lemma subdomains_reported_singleton (domain host source : String) :
    (reported domain [⟨host,source⟩]).map (·.subdomain) = if occurs domain.toList host.toList then [host] else [] := by
  rw [reported,List.filter_singleton]
  cases occurs domain.toList host.toList with
  | true => rfl
  | false => rfl

/-- A record can stand in for a plain line in every report just if the name is in lower case, or has no domain in it
either way. -/
theorem exchangeable_iff {name : String} (h : HostName name) :
    (∀ cs i layout, i < (rawLines cs).length → layout.Blank → '\n' ∉ record layout name →
      readReport domain (String.ofList (replaceLine cs i name.toList)) =
        readReport domain (String.ofList (replaceLine cs i (record layout name)))) ↔
    lower name.toList = name.toList ∨
      ¬ domain.toList <:+: lower name.toList ∧ ¬ domain.toList <:+: name.toList := by
  have unbroken : '\n' ∉ name.toList := h.not_mem rfl
  constructor
  · intro same
    -- the report that has this line alone
    have alone := same [] 0 Json.oneLine Nat.zero_lt_one Json.oneLine_blank (newline_not_mem_record name)
    rw [readReport_replaceLine Nat.zero_lt_one unbroken h.sightings_line,
      readReport_replaceLine Nat.zero_lt_one (newline_not_mem_record name) (sightings_record Json.oneLine_blank name)]
      at alone
    have hosts := congrArg (List.map (·.subdomain)) alone
    have before : reportLines (beforeLine [] 0) = [] := rfl
    have after : reportLines (afterLine [] 0) = [] := rfl
    rw [before,after,List.filterMap_nil,List.append_nil,List.append_nil,List.nil_append,List.nil_append,
      subdomains_reported_singleton,subdomains_reported_singleton,String.toList_ofList] at hosts
    rw [← occurs_iff_infix,← occurs_iff_infix]
    split at hosts
    · next holds =>
      split at hosts
      · have spelled := congrArg String.toList (List.cons.inj hosts).1
        exact .inl (by rwa [String.toList_ofList] at spelled)
      · cases hosts
    · next lacksLower =>
      split at hosts
      · cases hosts
      · next lacks => exact .inr ⟨lacksLower,lacks⟩
  · intro fine cs i layout numbered blank whole
    rw [readReport_replaceLine numbered unbroken h.sightings_line,
      readReport_replaceLine numbered whole (sightings_record blank name)]
    obtain small | ⟨lacksLower,lacks⟩ := fine
    · rw [small,String.ofList_toList]
    · refine reported_congr ?_
      rw [← occurs_iff_infix] at lacks lacksLower
      rw [List.filter_cons_of_neg (by simpa using lacksLower),List.filter_cons_of_neg (by simpa using lacks)]

/-- A host that a line of the report names. -/
def Named (report host : String) : Prop := ∃ line ∈ reportLines report.toList, Names line host

/-- A host that is not in lower case comes from a record. -/
theorem Named.capitalized {report host : String} (named : Named report host)
    (capital : lower host.toList ≠ host.toList) : Capitalized report host := by
  obtain ⟨line,inside,named⟩ := named
  cases named with
  | record read => exact ⟨capital,line,inside,_,read⟩
  | plain unread unlike =>
    rw [String.toList_ofList,lower_lower] at capital
    exact absurd rfl capital

lemma pairwise_reported (domain report : String) : ((readReport domain report).map (·.subdomain)).Pairwise fun g h =>
    g ≠ h ∧ (SameLetters g h → Capitalized report g ∨ Capitalized report h) := by
  refine List.Nodup.pairwise_of_forall_ne (nodup_subdomains domain report) fun g hg h hh other => ⟨other,fun same => ?_⟩
  have namedG := ((mem_reported_iff domain report g).mp hg).1
  have namedH := ((mem_reported_iff domain report h).mp hh).1
  by_cases smallG : lower g.toList = g.toList
  · by_cases smallH : lower h.toList = h.toList
    · exact absurd (same.eq_of_lower smallG smallH) other
    · exact .inr (Named.capitalized namedH smallH)
  · exact .inl (Named.capitalized namedG smallG)

lemma apart_iff (domain report : String) :
    ((readReport domain report).map (·.subdomain)).Pairwise (fun g h => ¬ SameLetters g h) ↔
      ∀ g h, Named report g → Named report h → domain.toList <:+: g.toList → domain.toList <:+: h.toList →
        SameLetters g h → g = h := by
  constructor
  · intro apart g h namedG namedH insideG insideH same
    by_contra other
    have symm : Std.Symm fun g h => ¬ SameLetters g h := ⟨fun _ _ differ same => differ same.symm⟩
    exact apart.forall ((mem_reported_iff domain report g).mpr ⟨namedG,insideG⟩)
      ((mem_reported_iff domain report h).mpr ⟨namedH,insideH⟩) other same
  · intro single
    refine List.Nodup.pairwise_of_forall_ne (nodup_subdomains domain report) fun g hg h hh other same => other ?_
    obtain ⟨namedG,insideG⟩ := (mem_reported_iff domain report g).mp hg
    obtain ⟨namedH,insideH⟩ := (mem_reported_iff domain report h).mp hh
    exact single g h namedG namedH insideG insideH same

/-- No host is reported twice, and where two differ in the case of letters alone, a record has capitals in one of them.
That no two do so, for all the lines name, is the exact condition for names to be told once. A record can stand in for
the plain line of a name in every report just if the name is in lower case or has no domain in it either way. -/
theorem told_once_but_for_capitals (domain : String) :
    (∀ report, ((readReport domain report).map (·.subdomain)).Pairwise fun g h =>
      g ≠ h ∧ (SameLetters g h → Capitalized report g ∨ Capitalized report h)) ∧
    (∀ report, ((readReport domain report).map (·.subdomain)).Pairwise (fun g h => ¬ SameLetters g h) ↔
      ∀ g h, Named report g → Named report h → domain.toList <:+: g.toList → domain.toList <:+: h.toList →
        SameLetters g h → g = h) ∧
    (∀ name, HostName name →
      ((∀ cs i layout, i < (rawLines cs).length → layout.Blank → '\n' ∉ record layout name →
        readReport domain (String.ofList (replaceLine cs i name.toList)) =
          readReport domain (String.ofList (replaceLine cs i (record layout name)))) ↔
      lower name.toList = name.toList ∨
        ¬ domain.toList <:+: lower name.toList ∧ ¬ domain.toList <:+: name.toList)) :=
  ⟨pairwise_reported domain,apart_iff domain,fun _ => exchangeable_iff⟩

/-- In lower case a record stands in for the second line of three. -/
theorem told_once_but_for_capitals_small : HostName "www.b.c" ∧
    readReport "b.c" (String.ofList (replaceLine "a.b.c\n\nWWW.b.c".toList 1 "www.b.c".toList)) =
      readReport "b.c" (String.ofList (replaceLine "a.b.c\n\nWWW.b.c".toList 1 (record Json.oneLine "www.b.c"))) := by
  have name : HostName "www.b.c" := by
    refine ⟨by decide,forall_mem_of_all (by decide),?_⟩
    rintro _ ⟨⟩
    decide
  exact ⟨name,((told_once_but_for_capitals "b.c").2.2 "www.b.c" name).mpr (.inl rfl) _ 1 _ (by decide)
    Json.oneLine_blank (newline_not_mem_record _)⟩

/-- A name on a plain line and again in a record with capitals is reported twice, and with capitals a plain line tells
another host than a record. -/
theorem clashing_hosts_reported :
    (readReport "b.c" "www.b.c\n\x7b\"host\":\"WWW.b.c\"\x7d").map (·.subdomain) = ["www.b.c","WWW.b.c"] ∧
    SameLetters "www.b.c" "WWW.b.c" ∧ lower "b.c".toList = "b.c".toList ∧
    readReport "b.c" "WWW.b.c" ≠ readReport "b.c" "\x7b\"host\":\"WWW.b.c\"\x7d" := by
  exact ⟨rfl,by decide,by decide,by decide⟩

end Reports
end Subfinder
end Recon
