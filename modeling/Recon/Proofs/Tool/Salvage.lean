import Recon.Proofs.Text.Lines
import Recon.Tool.Httpx
import Recon.Tool.Nuclei
import Recon.Tool.Subfinder

/-! Lines that look like a record and are none. Two of the tools pass over such a line, so it can be taken out of a
report; the third looks for a URL in it as in any other line. -/
namespace Recon

open Text

/-- A line that begins like a record and cannot be read as one. -/
structure BrokenRecord {α : Type} (fields : Fields α) (line : List Char) : Prop where
  alike : line.head? = some '\x7b'
  unread : ∀ r, Decode.document (fields.decode .json) (Json.read line) ≠ .ok r

namespace BrokenRecord

variable {α : Type} {fields : Fields α} {line : List Char}

lemma exists_fault (h : BrokenRecord fields line) :
    ∃ fault, Decode.document (fields.decode .json) (Json.read line) = .error fault := by
  cases read : Decode.document (fields.decode .json) (Json.read line) with
  | ok r => exact absurd read (h.unread r)
  | error fault => exact ⟨fault,rfl⟩

lemma isContent (h : BrokenRecord fields line) : isContent line = true := by
  obtain ⟨rest,rfl⟩ := List.head?_eq_some_iff.mp h.alike
  rfl

lemma subfinder (h : BrokenRecord Subfinder.recordFields line) : Subfinder.readLine line = none := by
  obtain ⟨fault,unread⟩ := h.exists_fault
  simp only [Subfinder.readLine,unread,h.alike,beq_self_eq_true,if_true]

lemma nuclei (h : BrokenRecord Nuclei.lineFields line) : Nuclei.readLine line = none := by
  obtain ⟨fault,unread⟩ := h.exists_fault
  simp only [Nuclei.readLine,unread,h.alike,beq_self_eq_true,if_true]

lemma httpx (h : BrokenRecord Httpx.lineFields line) : Httpx.readLine line = Httpx.readPlain line := by
  obtain ⟨fault,unread⟩ := h.exists_fault
  simp only [Httpx.readLine,unread]

end BrokenRecord

/-- A line that a reader passes over can be taken out. -/
theorem Text.filterMap_withoutLine {β : Type} {read : List Char → Option β} {cs line : List Char} {i : Nat}
    (numbered : (rawLines cs)[i]? = some line) (passed : read (trim line) = none) :
    (reportLines (withoutLine cs i)).filterMap read = (reportLines cs).filterMap read := by
  have skipped : ([trim line].filter Text.isContent).filterMap read = [] :=
    List.filterMap_eq_nil_iff.mpr fun l inside => by
      rw [List.mem_singleton.mp (List.mem_of_mem_filter inside),passed]
  rw [reportLines_withoutLine,reportLines_eq_append cs i numbered,List.filterMap_append,List.filterMap_append,
    List.filterMap_append,skipped,List.nil_append]

namespace Httpx

lemma isPrefix_of_urlHere? {cs url : List Char} (h : urlHere? cs = some url) : url ≠ [] ∧ url <+: cs := by
  have of_scheme {scheme rest : List Char} (filled : scheme ≠ []) (found : after? scheme cs = some rest)
      (here : (if (rest.takeWhile (!isBlank ·)).isEmpty then none
        else some (scheme ++ rest.takeWhile (!isBlank ·))) = some url) : url ≠ [] ∧ url <+: cs := by
    split at here
    · cases here
    · obtain rfl := Option.some.inj here
      rw [after?_eq_some_iff.mp found]
      exact ⟨List.append_ne_nil_of_left_ne_nil filled _,
        (List.prefix_append_right_inj scheme).mpr (List.takeWhile_prefix _)⟩
  unfold urlHere? at h
  cases plain : after? ['h','t','t','p',':','/','/'] cs with
  | some rest =>
    rw [plain] at h
    exact of_scheme (List.cons_ne_nil _ _) plain h
  | none =>
    cases secure : after? ['h','t','t','p','s',':','/','/'] cs with
    | some rest =>
      rw [plain,secure] at h
      exact of_scheme (List.cons_ne_nil _ _) secure h
    | none =>
      rw [plain,secure] at h
      cases h

lemma isInfix_of_url? {cs url : List Char} (h : url? cs = some url) : url ≠ [] ∧ url <:+: cs := by
  induction cs with
  | nil => cases h
  | cons c cs ih =>
    rw [url?] at h
    cases here : urlHere? (c :: cs) with
    | some first =>
      rw [here] at h
      obtain rfl := Option.some.inj h
      exact ⟨(isPrefix_of_urlHere? here).1,(isPrefix_of_urlHere? here).2.isInfix⟩
    | none =>
      rw [here] at h
      exact ⟨(ih h).1,(ih h).2.trans (List.suffix_cons c cs).isInfix⟩

lemma readPlain_eq_none_iff {line : List Char} : readPlain line = none ↔ url? line = none := Option.map_eq_none_iff

/-- The URL that a plain line tells stands in the line. -/
theorem url_of_readPlain {line : List Char} {w : WebTech} (h : readPlain line = some w) :
    w.url ≠ "" ∧ w.url.toList <:+: line := by
  obtain ⟨url,found,rfl⟩ := Option.map_eq_some_iff.mp h
  obtain ⟨filled,inside⟩ := isInfix_of_url? found
  rw [Ne,← String.toList_eq_nil_iff,String.toList_ofList]
  exact ⟨filled,inside⟩

/-- What a line tells: nothing unless it has a URL. -/
def finding? (line : List Char) : Option WebTech := (readLine line).filter (·.url != "")

lemma readReport_eq (report : String) :
    readReport report = ((reportLines report.toList).findSome? finding?).getD {} := by
  rw [readReport,← List.head?_filter,List.filter_filterMap,List.head?_filterMap]
  rfl

lemma url_ne_empty_of_finding? {line : List Char} {w : WebTech} (h : finding? line = some w) : w.url ≠ "" := by
  simpa using (Option.filter_eq_some_iff.mp h).2

lemma url_readReport_eq_empty_iff (report : String) :
    (readReport report).url = "" ↔ (reportLines report.toList).findSome? finding? = none := by
  rw [readReport_eq]
  cases found : (reportLines report.toList).findSome? finding? with
  | none => exact iff_of_true rfl rfl
  | some w =>
    obtain ⟨line,-,told⟩ := List.exists_of_findSome?_eq_some found
    exact iff_of_false (url_ne_empty_of_finding? told) (Option.some_ne_none w)

/-- A broken record tells what a plain line tells. -/
theorem finding?_of_broken {line : List Char} (h : BrokenRecord lineFields line) : finding? line = readPlain line := by
  rw [finding?,h.httpx]
  cases plain : readPlain line with
  | none => rfl
  | some w =>
    exact Option.filter_some_pos (by simpa using (url_of_readPlain plain).1)

section Report

variable {report : String} {i : Nat} {line : List Char}

/-- The findings of the lines around a broken record, and between them what is told by it as a plain line. -/
theorem findSome?_of_broken (numbered : (rawLines report.toList)[i]? = some line)
    (broken : BrokenRecord lineFields (trim line)) : (reportLines report.toList).findSome? finding? =
      ((reportLines (beforeLine report.toList i)).findSome? finding?).or
        ((readPlain (trim line)).or ((reportLines (afterLine report.toList i)).findSome? finding?)) := by
  rw [reportLines_eq_append _ i numbered,List.findSome?_append,List.findSome?_append,
    List.filter_singleton,broken.isContent,cond_true,List.findSome?_singleton,finding?_of_broken broken]

lemma findSome?_withoutLine (cs : List Char) (i : Nat) : (reportLines (withoutLine cs i)).findSome? finding? =
    ((reportLines (beforeLine cs i)).findSome? finding?).or
      ((reportLines (afterLine cs i)).findSome? finding?) := by
  rw [reportLines_withoutLine,List.findSome?_append]

/-- A broken record can be taken out just if an earlier line has a URL, it has none itself, or what it tells is what the
lines after it tell. -/
theorem readReport_withoutLine_iff (numbered : (rawLines report.toList)[i]? = some line)
    (broken : BrokenRecord lineFields (trim line)) :
    readReport (String.ofList (withoutLine report.toList i)) = readReport report ↔
      (readReport (String.ofList (beforeLine report.toList i))).url ≠ "" ∨ url? (trim line) = none ∨
        readPlain (trim line) = some (readReport (String.ofList (afterLine report.toList i))) := by
  rw [← readPlain_eq_none_iff,Ne,url_readReport_eq_empty_iff,readReport_eq,readReport_eq,readReport_eq,
    findSome?_of_broken numbered broken,String.toList_ofList,String.toList_ofList,String.toList_ofList,
    findSome?_withoutLine]
  cases (reportLines (beforeLine report.toList i)).findSome? finding? with
  | some w => simp
  | none =>
    cases readPlain (trim line) with
    | none => simp
    | some w => simp [eq_comm]

/-- If no earlier line has a URL, that of a broken record is reported as it stands in the line. -/
theorem readReport_of_broken (numbered : (rawLines report.toList)[i]? = some line)
    (broken : BrokenRecord lineFields (trim line))
    (none : (readReport (String.ofList (beforeLine report.toList i))).url = "") {w : WebTech}
    (plain : readPlain (trim line) = some w) : readReport report = w ∧ w.url ≠ "" ∧ w.url.toList <:+: trim line := by
  rw [url_readReport_eq_empty_iff,String.toList_ofList] at none
  rw [readReport_eq,findSome?_of_broken numbered broken,none,plain]
  exact ⟨rfl,url_of_readPlain plain⟩

end Report
end Httpx

/-- A broken record changes nothing in a report on subdomains or weaknesses. In one on web servers it counts as a plain
line: the first URL of all is reported even if it is cut out of a broken record, and that can be taken out without a
change just if an earlier line has a URL, the record has none or the later lines tell the same. -/
theorem broken_record_taken_out {report : String} {i : Nat} {line : List Char}
    (numbered : (rawLines report.toList)[i]? = some line) :
    (BrokenRecord Subfinder.recordFields (trim line) → ∀ domain,
      Subfinder.readReport domain (String.ofList (withoutLine report.toList i)) = Subfinder.readReport domain report) ∧
    (BrokenRecord Nuclei.lineFields (trim line) →
      Nuclei.readReport (String.ofList (withoutLine report.toList i)) = Nuclei.readReport report) ∧
    (BrokenRecord Httpx.lineFields (trim line) →
      (Httpx.readReport (String.ofList (withoutLine report.toList i)) = Httpx.readReport report ↔
        (Httpx.readReport (String.ofList (beforeLine report.toList i))).url ≠ "" ∨ Httpx.url? (trim line) = none ∨
          Httpx.readPlain (trim line) = some (Httpx.readReport (String.ofList (afterLine report.toList i)))) ∧
      ((Httpx.readReport (String.ofList (beforeLine report.toList i))).url = "" →
        ∀ w, Httpx.readPlain (trim line) = some w →
          Httpx.readReport report = w ∧ w.url ≠ "" ∧ w.url.toList <:+: trim line)) := by
  refine ⟨fun broken domain => ?_,fun broken => ?_,fun broken => ⟨Httpx.readReport_withoutLine_iff numbered broken,
    fun none w plain => Httpx.readReport_of_broken numbered broken none plain⟩⟩
  · rw [Subfinder.readReport,Subfinder.sightings,String.toList_ofList,filterMap_withoutLine numbered broken.subfinder]
    rfl
  · rw [Nuclei.readReport,String.toList_ofList,filterMap_withoutLine numbered broken.nuclei]
    rfl

/-- A record that was cut off is passed over by two of the tools, but the third takes its URL. -/
theorem broken_record_taken_out_torn :
    Subfinder.readReport "b" (String.ofList (withoutLine "\x7b\"url\":\"http://a\nhttp://b".toList 0)) =
      Subfinder.readReport "b" "\x7b\"url\":\"http://a\nhttp://b" ∧
    Nuclei.readReport (String.ofList (withoutLine "\x7b\"url\":\"http://a\nhttp://b".toList 0)) =
      Nuclei.readReport "\x7b\"url\":\"http://a\nhttp://b" ∧
    Httpx.readReport (String.ofList (withoutLine "\x7b\"url\":\"http://a\nhttp://b".toList 0)) ≠
      Httpx.readReport "\x7b\"url\":\"http://a\nhttp://b" := by
  obtain ⟨subfinder,nuclei,httpx⟩ := @broken_record_taken_out "\x7b\"url\":\"http://a\nhttp://b" 0
    "\x7b\"url\":\"http://a".toList rfl
  refine ⟨subfinder ⟨rfl,nofun⟩ "b",nuclei ⟨rfl,nofun⟩,fun same => ?_⟩
  obtain early | silent | same := (httpx ⟨rfl,nofun⟩).1.mp same
  · exact early rfl
  · cases silent
  · exact absurd same (by decide)

/-- The null is no status code, so the record is broken; its URL is reported with the rest of the line. -/
theorem Httpx.broken_record_reported :
    BrokenRecord lineFields "\x7b\"url\":\"https://a.example.com\",\"status_code\":null\x7d".toList ∧
    readReport "\x7b\"url\":\"https://a.example.com\",\"status_code\":null\x7d" =
      { url := "https://a.example.com\",\"status_code\":null\x7d" } ∧
    readReport (String.ofList (withoutLine
      "\x7b\"url\":\"https://a.example.com\",\"status_code\":null\x7d".toList 0)) = {} := by
  exact ⟨⟨rfl,nofun⟩,rfl,rfl⟩

end Recon
