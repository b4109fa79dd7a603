import Recon.Proofs.Decode.Fields
import Recon.Proofs.Json.Line
import Recon.Proofs.Json.Reading
import Recon.Proofs.Json.Refused
import Recon.Proofs.Text.Decimal
import Recon.Proofs.Tool.Host
import Recon.Proofs.Tool.Salvage

/-! The two forms in which a probe is reported. On a plain line its URL, status and title are looked for one by one,
each anywhere on the line, and in a record they stand under their names. Both tell the same. -/
namespace Recon.Httpx

open Text

/-- A server that answered, with a status of three digits and the title of its page. -/
structure Probe where
  scheme : List Char
  location : List Char
  status : Nat
  title : List Char
  scheme_known : scheme ∈ Target.schemes
  location_filled : location ≠ []
  location_plain : ∀ c ∈ location, isBlank c = false ∧ c ≠ '['
  status_short : status < tenTo 3
  title_filled : title ≠ []
  title_plain : ∀ c ∈ title, c ≠ ']' ∧ c ≠ '\n'
  title_worded : ∃ c ∈ title, c.isDigit = false

namespace Probe

variable (p : Probe)

def url : List Char := p.scheme ++ p.location

/-- The status with its three digits. -/
def digits : List Char := decimalPadded 3 p.status

/-- The plain line `url [status] [title]`. -/
def text : List Char := p.url ++ ' ' :: '[' :: (p.digits ++ ']' :: ' ' :: '[' :: (p.title ++ [']']))

def finding : WebTech where
  url := String.ofList p.url
  statusCode := UInt16.ofNat p.status
  title := String.ofList p.title
  technologies := []

def entries : List (String × Value) :=
  [("url",.text (String.ofList p.url)),("status_code",.ofNat p.status),("title",.text (String.ofList p.title))]

/-- A line that is a record of the probe, however it is written and in whatever order. -/
structure Records (line : List Char) : Prop where
  unbroken : '\n' ∉ line
  read : ∃ es, es.Perm p.entries ∧ Json.read (trim line) = ⟨.table es,false⟩

section Plain

variable {p}

lemma url_eq_cons (p : Probe) : ∃ rest, p.url = 'h' :: rest := by
  have letter : ∀ scheme ∈ Target.schemes, ∃ rest, scheme = 'h' :: rest := by simp [Target.schemes]
  obtain ⟨rest,spelled⟩ := letter p.scheme p.scheme_known
  exact ⟨rest ++ p.location,by rw [url,spelled,List.cons_append]⟩

lemma text_eq_cons (p : Probe) : ∃ rest, p.text = 'h' :: rest := by
  obtain ⟨rest,spelled⟩ := p.url_eq_cons
  exact ⟨_,by rw [text,spelled,List.cons_append]⟩

lemma bracket_not_mem_url (p : Probe) : '[' ∉ p.url := by
  have plain : ∀ scheme ∈ Target.schemes, '[' ∉ scheme := by decide
  rw [url,List.mem_append,not_or]
  exact ⟨plain p.scheme p.scheme_known,fun inside => (p.location_plain '[' inside).2 rfl⟩

lemma isDigit_of_mem_digits {c : Char} (inside : c ∈ p.digits) : c.isDigit = true :=
  isDigit_of_mem_decimalPadded inside

lemma exists_digits (p : Probe) : ∃ a b c, p.digits = [a,b,c] :=
  List.length_eq_three.mp (length_decimalPadded (by decide) p.status_short)

lemma digits_ne_nil (p : Probe) : p.digits ≠ [] := by
  obtain ⟨a,b,c,spelled⟩ := p.exists_digits
  exact spelled ▸ List.cons_ne_nil _ _

/-- A URL reaches to the next blank. -/
theorem urlHere?_append {scheme location : List Char} (known : scheme ∈ Target.schemes) (filled : location ≠ [])
    (unspaced : ∀ c ∈ location, isBlank c = false) (rest : List Char) :
    urlHere? (scheme ++ (location ++ ' ' :: rest)) = some (scheme ++ location) := by
  have path : (location ++ ' ' :: rest).takeWhile (!isBlank ·) = location :=
    takeWhile_append_cons (by simpa using unspaced) rfl rest
  simp only [Target.schemes,List.mem_cons,List.not_mem_nil,or_false] at known
  obtain rfl | rfl := known
  · simp [urlHere?,after?,path,filled]
  · simp [urlHere?,after?,path,filled]

/-- A plain line with anything behind it. -/
theorem text_append (p : Probe) (more : List Char) : p.text ++ more =
    p.url ++ ' ' :: '[' :: (p.digits ++ ']' :: ' ' :: '[' :: (p.title ++ ']' :: more)) := by
  simp [text]

lemma url?_text (p : Probe) (more : List Char) : url? (p.text ++ more) = some p.url := by
  obtain ⟨cs,spelled⟩ := p.url_eq_cons
  have here : urlHere? (p.text ++ more) = some p.url := by
    rw [text_append,url,List.append_assoc]
    exact urlHere?_append p.scheme_known p.location_filled (fun c inside => (p.location_plain c inside).1) _
  rw [text_append,spelled,List.cons_append] at here ⊢
  rw [url?,here]
  rfl

/-- No status is found before a bracket. -/
theorem status?_append {cs : List Char} (none : '[' ∉ cs) (rest : List Char) : status? (cs ++ rest) = status? rest := by
  induction cs with
  | nil => rfl
  | cons c cs ih =>
    rw [List.mem_cons,not_or] at none
    rw [List.cons_append,status?,ih none.2]
    rintro _ _ _ _ rfl
    exact absurd rfl none.1

lemma status?_text (p : Probe) (more : List Char) : status? (p.text ++ more) = some p.digits := by
  have before : '[' ∉ p.url ++ [' '] := by simp [p.bracket_not_mem_url]
  obtain ⟨a,b,c,spelled⟩ := p.exists_digits
  have decimal : [a,b,c].all isDecimalDigit = true := List.all_eq_true.mpr fun d inside =>
    isDecimalDigit_of_isDigit (isDigit_of_mem_digits (p := p) (spelled ▸ inside))
  rw [text_append,List.append_cons,status?_append before,spelled]
  exact if_pos decimal

lemma readBelow?_digits (p : Probe) : readBelow? UInt16.size p.digits = some p.status := by
  have fits : p.status < UInt16.size := p.status_short.trans (by decide)
  rw [readBelow?,readNat?_digits p.digits_ne_nil fun c => isDigit_of_mem_digits,digits,digitsFrom_decimalPadded]
  exact Option.filter_some_pos (by simpa using fits)

lemma bracketed_append {cs : List Char} (none : '[' ∉ cs) (rest : List Char) :
    bracketed .none (cs ++ rest) = bracketed .none rest := by
  induction cs with
  | nil => rfl
  | cons c cs ih =>
    rw [List.mem_cons,not_or] at none
    have other : (c == '[') = false := by simpa using Ne.symm none.1
    rw [List.cons_append,bracketed,other]
    exact ih none.2

/-- What is in brackets goes up to the first closing one. -/
theorem bracketed_inside (held : List Char) {cs : List Char} (unclosed : ']' ∉ cs) (filled : held ++ cs ≠ [])
    (rest : List Char) :
    bracketed (some held) (cs ++ ']' :: rest) = (held.reverse ++ cs) :: bracketed none rest := by
  induction cs generalizing held with
  | nil =>
    obtain ⟨c,held,rfl⟩ := List.exists_cons_of_ne_nil (List.append_nil held ▸ filled)
    rw [List.nil_append,bracketed,List.append_nil]
    · rfl
    · nofun
  | cons c cs ih =>
    rw [List.mem_cons,not_or] at unclosed
    have inner : (c == ']') = false := by simpa using Ne.symm unclosed.1
    have step : bracketed (some held) (c :: cs ++ ']' :: rest) = bracketed (some (c :: held)) (cs ++ ']' :: rest) := by
      cases held with
      | nil => simp [bracketed,inner]
      | cons d held => simp [bracketed,inner]
    rw [step,ih (c :: held) unclosed.2 (List.cons_ne_nil _ _),List.reverse_cons,List.append_assoc,List.singleton_append]

lemma bracketed_text (p : Probe) (more : List Char) :
    bracketed none (p.text ++ more) = p.digits :: p.title :: bracketed none more := by
  have before : '[' ∉ p.url ++ [' '] := by simp [p.bracket_not_mem_url]
  have digits_unclosed : ']' ∉ p.digits := fun inside => absurd (isDigit_of_mem_digits inside) (by decide)
  have title_unclosed : ']' ∉ p.title := fun inside => (p.title_plain _ inside).1 rfl
  have opened (cs : List Char) : bracketed none ('[' :: cs) = bracketed (some []) cs := rfl
  have spaced (cs : List Char) : bracketed none (' ' :: '[' :: cs) = bracketed (some []) cs := rfl
  rw [text_append,List.append_cons,bracketed_append before,opened,
    bracketed_inside [] digits_unclosed p.digits_ne_nil,spaced,bracketed_inside [] title_unclosed p.title_filled]
  rfl

lemma title_found (p : Probe) (more : List Char) :
    (bracketed none (p.text ++ more)).find? (fun t => !t.all Char.isDigit) = some p.title := by
  have digital : p.digits.all Char.isDigit = true := List.all_eq_true.mpr fun c => isDigit_of_mem_digits
  have worded : p.title.all Char.isDigit = false := by simpa using p.title_worded
  rw [bracketed_text,List.find?_cons_of_neg (by simp [digital]),List.find?_cons_of_pos (by simp [worded])]

/-- A plain line is read as the probe, whatever stands behind it. -/
theorem readPlain_text (p : Probe) (more : List Char) : readPlain (p.text ++ more) = some p.finding := by
  rw [readPlain,p.url?_text,p.status?_text,p.title_found,Option.bind_some,p.readBelow?_digits]
  rfl

lemma url_finding_ne_empty (p : Probe) : p.finding.url ≠ "" := by
  obtain ⟨cs,spelled⟩ := p.url_eq_cons
  rw [finding,spelled,Ne,← String.toList_eq_nil_iff,String.toList_ofList]
  exact List.cons_ne_nil _ _

/-- A line that is read as the probe tells it. -/
theorem finding?_of_readLine {line : List Char} (read : readLine line = some p.finding) :
    finding? line = some p.finding := by
  rw [finding?,read]
  exact Option.filter_some_pos (by simpa using p.url_finding_ne_empty)

lemma readLine_text (p : Probe) (more : List Char) : readLine (p.text ++ more) = some p.finding := by
  obtain ⟨cs,spelled⟩ := p.text_eq_cons
  have unread : Decode.document (lineFields.decode .json) (Json.read (p.text ++ more)) = .error .mismatch := by
    rw [spelled,Decode.document,List.cons_append,
      Fields.decode_of_not_holds (Json.not_holds_read (by decide) (by decide) (by decide) _)]
  rw [readLine,unread]
  exact p.readPlain_text more

lemma trimmed_text (p : Probe) : Trimmed p.text where
  first c lead := by
    obtain ⟨cs,spelled⟩ := p.text_eq_cons
    rw [spelled] at lead
    exact Option.some.inj lead ▸ rfl
  last c final := by
    have closed : p.text = (p.url ++ ' ' :: '[' :: (p.digits ++ ']' :: ' ' :: '[' :: p.title)) ++ [']'] := by
      simp [text]
    rw [closed,List.getLast?_concat] at final
    exact Option.some.inj final ▸ rfl

/-- Of what stands behind a plain line only blanks at the end go. -/
theorem trim_text_append (p : Probe) (more : List Char) : trim (p.text ++ more) = p.text ++ trimEnd more := by
  have filled : p.text ≠ [] := by
    obtain ⟨cs,spelled⟩ := p.text_eq_cons
    exact spelled ▸ List.cons_ne_nil _ _
  exact trim_around (List.forall_mem_nil _) p.trimmed_text filled more

lemma isContent_text_append (p : Probe) (more : List Char) : isContent (p.text ++ more) = true := by
  obtain ⟨cs,spelled⟩ := p.text_eq_cons
  rw [spelled]
  rfl

lemma newline_not_mem_text (p : Probe) : '\n' ∉ p.text := by
  have scheme : ∀ scheme ∈ Target.schemes, '\n' ∉ scheme := by decide
  have location : '\n' ∉ p.location := fun inside => absurd (p.location_plain _ inside).1 (by decide)
  have digits : '\n' ∉ p.digits := fun inside => absurd (isDigit_of_mem_digits inside) (by decide)
  have title : '\n' ∉ p.title := fun inside => (p.title_plain _ inside).2 rfl
  simp [text,url,scheme p.scheme p.scheme_known,location,digits,title]

end Plain

section Record

variable {p} {line : List Char}

/-- The entries of a record are read in whatever order they stand. -/
theorem decode_record {es : List (String × Value)} (same : es.Perm p.entries) :
    lineFields.decode .json (.table es) =
      .ok ⟨String.ofList p.url,UInt16.ofNat p.status,String.ofList p.title,"",[],[]⟩ := by
  have keys : (es.map (·.1)).Perm ["url","status_code","title"] := same.map (·.1)
  have unique : (es.map (·.1)).Nodup := keys.nodup_iff.mpr (by decide)
  have held {key : String} {v : Value} (listed : (key,v) ∈ p.entries) : lookup? key es = some v :=
    lookup?_of_mem unique (same.mem_iff.mpr listed)
  have absent {key : String} (other : key ∉ ["url","status_code","title"]) : lookup? key es = none :=
    lookup?_of_not_mem fun listed => other (keys.mem_iff.mp listed)
  have known : ∀ key ∈ es.map (·.1), key ∈ lineFields.names := fun key listed =>
    (by decide : ["url","status_code","title"] ⊆ lineFields.names) (keys.mem_iff.mp listed)
  have fits : p.status < UInt16.size := p.status_short.trans (by decide)
  have status : Decode.uint16 (.ofNat p.status) = .ok (UInt16.ofNat p.status) := by
    rw [Decode.uint16,Decode.below_ofNat fits]
    rfl
  have unhyphened : ∀ other ∈ ["status-code"], other ∉ es.map (·.1) := by simp [keys.mem_iff]
  exact Fields.decode_of_known .json unique known (.map (a := ((_,_),(_,_),_,_))
    (.and (.and (.text (held (by simp [entries]))) (.alias unhyphened (.found (held (by simp [entries])) status)))
      (.and (.and (.text (held (by simp [entries]))) (.missing (absent (by decide))))
        (.and (.missing (absent (by decide))) (.missing (absent (by decide)))))) rfl)

lemma Records.readLine (h : p.Records line) : readLine (trim line) = some p.finding := by
  obtain ⟨es,same,tree⟩ := h.read
  have read : Decode.document (lineFields.decode .json) (Json.read (trim line)) =
      .ok ⟨String.ofList p.url,UInt16.ofNat p.status,String.ofList p.title,"",[],[]⟩ := by
    rw [tree,Decode.document,decode_record same]
    rfl
  rw [Httpx.readLine,read]
  rfl

/-- A record is neither empty nor a comment. -/
theorem Records.isContent (h : p.Records line) : isContent (trim line) = true := by
  obtain ⟨es,same,tree⟩ := h.read
  cases spelled : trim line with
  | nil =>
    rw [spelled] at tree
    cases tree
  | cons c cs =>
    have told : c ≠ '#' := by
      rintro rfl
      have none : ¬ (Json.read ('#' :: cs)).root.Holds := Json.not_holds_read rfl (by decide) (by decide) cs
      rw [← spelled,tree] at none
      exact none trivial
    simpa [Text.isContent] using told

/-- A record on one line is one. -/
theorem records_compact (p : Probe) : p.Records (Json.compact (.table p.entries)) where
  unbroken := Json.newline_not_mem_compact (List.forall_mem_cons.mpr ⟨Json.newline_not_mem_text _,
    List.forall_mem_cons.mpr ⟨Json.newline_not_mem_int _,List.forall_mem_singleton.mpr (Json.newline_not_mem_text _)⟩⟩)
  read := by
    have short : p.status < 1000 := p.status_short
    have whole : Json.Exact p.status := by
      unfold Json.Exact
      omega
    have legible : Json.Legible (.table p.entries) := by
      simpa [entries,Json.Legible,Json.EntriesLegible,Value.ofNat] using whole
    refine ⟨p.entries,.refl _,?_⟩
    rw [Json.compact,trim_eq_self (Json.trimmed_print_table Json.oneLine 0 _),
      Json.read_print Json.oneLine_blank legible]

end Record

section Report

variable {before after : List (List Char)}

/-- A line without a URL gives nothing to a report. -/
theorem findSome?_silent (apart : ∀ l ∈ before, '\n' ∉ l)
    (silent : ∀ l ∈ before, (readReport (String.ofList l)).url = "") :
    ((before.map trim).filter Text.isContent).findSome? finding? = none := by
  refine List.findSome?_eq_none_iff.mpr fun line listed => ?_
  obtain ⟨inside,content⟩ := List.mem_filter.mp listed
  obtain ⟨l,own,rfl⟩ := List.mem_map.mp inside
  have none := (url_readReport_eq_empty_iff _).mp (silent l own)
  have alone : reportLines l = [trim l] := by
    rw [reportLines,rawLines_eq_singleton_iff.mpr (apart l own),List.map_singleton,List.filter_singleton,content,
      cond_true]
  rwa [String.toList_ofList,alone,List.findSome?_singleton] at none

/-- What the first line with a URL tells is the finding of a report. -/
theorem readReport_of_first {line : List Char} (unbroken : '\n' ∉ line) (apart : ∀ l ∈ before ++ after, '\n' ∉ l)
    (silent : ∀ l ∈ before, (readReport (String.ofList l)).url = "") (content : Text.isContent (trim line) = true)
    {w : WebTech} (told : finding? (trim line) = some w) :
    readReport (String.ofList (['\n'].intercalate (before ++ line :: after))) = w := by
  rw [List.forall_mem_append] at apart
  have whole : ∀ l ∈ before ++ line :: after, '\n' ∉ l :=
    List.forall_mem_append.mpr ⟨apart.1,List.forall_mem_cons.mpr ⟨unbroken,apart.2⟩⟩
  rw [readReport_eq,String.toList_ofList,reportLines_intercalate whole,List.map_append,List.filter_append,
    List.findSome?_append,findSome?_silent apart.1 silent,List.map_cons,List.filter_cons_of_pos content,
    List.findSome?_cons,told]
  rfl

end Report

/-- A probe has a record on one line. Behind lines without a URL, a plain line of the probe, whatever stands behind it,
and every record of the probe both make the report tell its URL, its status and its title, and no technology. -/
theorem told_by_both_forms (p : Probe) : p.Records (Json.compact (.table p.entries)) ∧
    ∀ before after, (∀ l ∈ before ++ after, '\n' ∉ l) → (∀ l ∈ before, (readReport (String.ofList l)).url = "") →
      (∀ more, '\n' ∉ more →
        readReport (String.ofList (['\n'].intercalate (before ++ (p.text ++ more) :: after))) = p.finding) ∧
      (∀ line, p.Records line →
        readReport (String.ofList (['\n'].intercalate (before ++ line :: after))) = p.finding) := by
  refine ⟨p.records_compact,fun before after apart silent => ⟨fun more flat => ?_,fun line record => ?_⟩⟩
  · have unbroken : '\n' ∉ p.text ++ more := by simp [p.newline_not_mem_text,flat]
    refine readReport_of_first unbroken apart silent ?_ ?_
    · rw [trim_text_append]
      exact p.isContent_text_append _
    · rw [trim_text_append]
      exact finding?_of_readLine (p.readLine_text _)
  · exact readReport_of_first record.unbroken apart silent record.isContent (finding?_of_readLine record.readLine)

/-- A title that begins with digits and has an opening bracket and quotes. -/
def quotedProbe : Probe where
  scheme := "https://".toList
  location := "a.b:80".toList
  status := 30
  title := "404 [\"x\"".toList
  scheme_known := by decide
  location_filled := by decide
  location_plain := forall_mem_of_all (by decide)
  status_short := by decide
  title_filled := by decide
  title_plain := forall_mem_of_all (by decide)
  title_worded := ⟨' ',by decide,rfl⟩

/-- The record has the title first, and gaps. -/
theorem told_by_both_forms_quoted :
    readReport "2 hosts\nhttps://a.b:80 [030] [404 [\"x\"] [nginx] \nhttp://c" =
      { url := "https://a.b:80", statusCode := 30, title := "404 [\"x\"" } ∧
    readReport
        "2 hosts\n\x7b \"title\":\"404 [\\\"x\\\"\", \"url\":\"https://a.b:80\",\"status_code\":30\x7d\nhttp://c" =
      { url := "https://a.b:80", statusCode := 30, title := "404 [\"x\"" } := by
  have apart : ∀ l ∈ ["2 hosts".toList] ++ ["http://c".toList], '\n' ∉ l := by decide
  have silent : ∀ l ∈ ["2 hosts".toList], (readReport (String.ofList l)).url = "" := by decide
  obtain ⟨plain,record⟩ := (told_by_both_forms quotedProbe).2 ["2 hosts".toList] ["http://c".toList] apart silent
  refine ⟨plain " [nginx] ".toList (by decide),record
    "\x7b \"title\":\"404 [\\\"x\\\"\", \"url\":\"https://a.b:80\",\"status_code\":30\x7d".toList ⟨by decide,?_⟩⟩
  exact ⟨_,(List.perm_append_singleton ("title",Value.text "404 [\"x\"")
    [("url",Value.text "https://a.b:80"),("status_code",Value.ofNat 30)]).symm,rfl⟩

end Probe
end Recon.Httpx
