import Recon.Proofs.Json.Refused
import Recon.Proofs.Text.Words
import Recon.Proofs.Tool.Joining

/-! The severity of a finding on a plain line. It has a place of its own there, after the template and the protocol, but
any severity in brackets counts, wherever it stands; so the one in that place is told unless a graver one is mentioned
by the template, the protocol, the title or the URL. -/
namespace Recon.Nuclei

open Text

/-- The severities above one. -/
def graver (severity : String) : List String := severities.takeWhile (· ≠ severity)

/-- A word has the severity in square brackets, in whatever case. -/
def Mentions (w : List Char) (severity : String) : Prop := '[' :: severity.toList ++ [']'] <:+: lower w

instance (w : List Char) (severity : String) : Decidable (Mentions w severity) := inferInstanceAs (Decidable (_ <:+: _))

/-- A plain line `[template] [protocol] [severity] title url`. -/
structure Notice where
  template : List Char
  protocol : List Char
  severity : List Char
  title : List (List Char)
  url : List Char
  template_unspaced : ∀ c ∈ template, isBlank c = false
  protocol_unspaced : ∀ c ∈ protocol, isBlank c = false
  severity_known : String.ofList (severity.map Char.toLower) ∈ severities
  title_words : ∀ w ∈ title, IsWord w
  url_word : IsWord url

namespace Notice

variable (n : Notice)

def bracketed (cs : List Char) : List Char := '[' :: cs ++ [']']

/-- The words of the line other than its severity. -/
def others : List (List Char) := bracketed n.template :: bracketed n.protocol :: (n.title ++ [n.url])

def words : List (List Char) :=
  bracketed n.template :: bracketed n.protocol :: bracketed n.severity :: (n.title ++ [n.url])

def text : List Char := joinWith [' '] n.words

/-- The severity in its place, in lower case. -/
def own : String := String.ofList (n.severity.map Char.toLower)

/-- What is told of the line, under some severity. -/
def finding (severity : String) : Vulnerability where
  target := String.ofList n.url
  title := String.ofList (joinWith [' '] (bracketed n.severity :: n.title))
  severity := severity
  location := String.ofList n.url

/-- The gravest severity that a word of the line mentions. -/
structure Gravest (severity : String) : Prop where
  known : severity ∈ severities
  mentioned : ∃ w ∈ n.words, Mentions w severity
  unexceeded : ∀ g ∈ graver severity, ∀ w ∈ n.words, ¬ Mentions w g

section Words

variable {n} {w : List Char}

lemma isWord_bracketed {cs : List Char} (unspaced : ∀ c ∈ cs, isBlank c = false) : IsWord (bracketed cs) where
  filled := List.cons_ne_nil _ _
  unspaced c inside := by
    rw [bracketed,List.cons_append,List.mem_cons,List.mem_append,List.mem_singleton] at inside
    obtain rfl | inside | rfl := inside
    · rfl
    · exact unspaced c inside
    · rfl

lemma plain_severities : ∀ s ∈ severities, ∀ c ∈ s.toList, c.toNat < 128 ∧ isBlank c = false := by
  have plain : ∀ s ∈ severities, s.toList.all (fun c => decide (c.toNat < 128 ∧ isBlank c = false)) = true := by decide
  exact fun s known => forall_mem_of_all (plain s known)

lemma plain_severity {c : Char} (inside : c ∈ n.severity) : c.toNat < 128 ∧ isBlank c = false := by
  have plain : c.toLower.toNat < 128 ∧ isBlank c.toLower = false := by
    refine plain_severities _ n.severity_known _ ?_
    rw [String.toList_ofList]
    exact List.mem_map_of_mem inside
  have ascii := ascii_of_toLower plain.1
  exact ⟨ascii,isBlank_toLower ascii ▸ plain.2⟩

lemma isWord (listed : w ∈ n.words) : IsWord w := by
  simp only [words,List.mem_cons,List.mem_append,List.not_mem_nil,or_false] at listed
  obtain rfl | rfl | rfl | titled | rfl := listed
  · exact isWord_bracketed n.template_unspaced
  · exact isWord_bracketed n.protocol_unspaced
  · exact isWord_bracketed fun c inside => (plain_severity inside).2
  · exact n.title_words w titled
  · exact n.url_word

lemma lower_bracketed_severity : lower (bracketed n.severity) = bracketed n.own.toList := by
  have ascii : ∀ c ∈ bracketed n.severity, c.toNat < 128 := by
    intro c inside
    rw [bracketed,List.cons_append,List.mem_cons,List.mem_append,List.mem_singleton] at inside
    obtain rfl | inside | rfl := inside
    · decide
    · exact (plain_severity inside).1
    · decide
  rw [lower_of_ascii ascii,own,String.toList_ofList,bracketed,List.map_append]
  rfl

lemma bracketed_severities : ∀ s ∈ severities, ∀ t ∈ severities,
    bracketed t.toList <:+: bracketed s.toList → t = s := by decide

/-- In its place the line mentions one severity. -/
theorem mentions_bracketed_severity {s : String} (known : s ∈ severities) :
    Mentions (bracketed n.severity) s ↔ s = n.own := by
  rw [Mentions,lower_bracketed_severity]
  constructor
  · exact bracketed_severities _ n.severity_known s known
  · rintro rfl
    exact List.infix_rfl

lemma mem_words_iff : w ∈ n.words ↔ w = bracketed n.severity ∨ w ∈ n.others := by
  simp only [words,others,List.mem_cons]
  tauto

end Words

section Severity

variable {n} {s : String}

lemma find?_eq_some_iff_takeWhile {α : Type} [DecidableEq α] {p : α → Bool} {xs : List α} {x : α} :
    xs.find? p = some x ↔ x ∈ xs ∧ p x = true ∧ ∀ y ∈ xs.takeWhile (· ≠ x), ¬ p y = true := by
  induction xs with
  | nil => simp
  | cons y xs ih =>
    by_cases same : y = x
    · subst same
      by_cases holds : p y = true
      · simp [holds]
      · simp only [List.find?_cons_of_neg holds,holds]
        refine iff_of_false (fun found => holds (List.find?_some found)) (by simp)
    · rw [List.takeWhile_cons_of_pos (by simpa using same),List.forall_mem_cons]
      by_cases holds : p y = true
      · simp [List.find?_cons_of_pos holds,holds,same]
      · simp [List.find?_cons_of_neg holds,holds,ih,Ne.symm same]

lemma occurs_text_iff (known : s ∈ severities) :
    occurs ('[' :: s.toList ++ [']']) (lower n.text) = true ↔ ∃ w ∈ n.words, Mentions w s := by
  have whole : ∀ s ∈ severities, ' ' ∉ '[' :: s.toList ++ [']'] := by decide
  rw [Text.occurs_iff_infix,text,lower_joinWith,infix_joinWith_iff (by simp) (whole s known)]
  simp only [List.mem_map,exists_exists_and_eq_and]
  rfl

lemma mem_severities_of_graver {g : String} (above : g ∈ graver s) : g ∈ severities :=
  (List.takeWhile_prefix _).subset above

lemma gravest_iff : n.Gravest s ↔
    severities.find? (fun s => occurs ('[' :: s.toList ++ [']']) (lower n.text)) = some s := by
  rw [find?_eq_some_iff_takeWhile]
  constructor
  · rintro ⟨known,mentioned,unexceeded⟩
    refine ⟨known,(occurs_text_iff known).mpr mentioned,fun g above => ?_⟩
    rw [occurs_text_iff (mem_severities_of_graver above)]
    rintro ⟨w,listed,graver⟩
    exact unexceeded g above w listed graver
  · rintro ⟨known,mentioned,unexceeded⟩
    refine ⟨known,(occurs_text_iff known).mp mentioned,fun g above w listed graver => ?_⟩
    exact unexceeded g above ((occurs_text_iff (mem_severities_of_graver above)).mpr ⟨w,listed,graver⟩)

/-- Some severity is mentioned in any case, the one in its place. -/
theorem gravest_severityIn (n : Notice) : n.Gravest (severityIn n.text) := by
  have mentioned : occurs ('[' :: n.own.toList ++ [']']) (lower n.text) = true :=
    (occurs_text_iff n.severity_known).mpr
      ⟨_,mem_words_iff.mpr (.inl rfl),(mentions_bracketed_severity n.severity_known).mpr rfl⟩
  rw [gravest_iff,severityIn]
  cases found : severities.find? fun s => occurs ('[' :: s.toList ++ [']']) (lower n.text) with
  | some s => rfl
  | none => exact absurd mentioned (List.find?_eq_none.mp found _ n.severity_known)

lemma Gravest.unique {t : String} (hs : n.Gravest s) (ht : n.Gravest t) : s = t :=
  Option.some.inj ((gravest_iff.mp hs).symm.trans (gravest_iff.mp ht))

lemma own_not_graver {g : String} (above : g ∈ graver n.own) : g ≠ n.own := by
  simpa using List.mem_takeWhile_imp above

/-- The severity in its place is the gravest just if no other word mentions a graver one. -/
theorem gravest_own_iff : n.Gravest n.own ↔ ∀ g ∈ graver n.own, ∀ w ∈ n.others, ¬ Mentions w g := by
  constructor
  · intro gravest g above w listed
    exact gravest.unexceeded g above w (mem_words_iff.mpr (.inr listed))
  · intro quiet
    refine ⟨n.severity_known,⟨_,mem_words_iff.mpr (.inl rfl),?_⟩,fun g above w listed => ?_⟩
    · exact (mentions_bracketed_severity n.severity_known).mpr rfl
    · obtain rfl | other := mem_words_iff.mp listed
      · rw [mentions_bracketed_severity (mem_severities_of_graver above)]
        exact own_not_graver above
      · exact quiet g above w other

end Severity

section Reading

variable {n}

/-- The line is read as a record. -/
def IsRecord (n : Notice) (l : Line) : Prop := Decode.document (lineFields.decode .json) (Json.read n.text) = .ok l

lemma exists_text_eq (n : Notice) : ∃ rest, n.text = '[' :: n.template ++ ']' :: ' ' :: '[' :: rest := by
  refine ⟨n.protocol ++ [']'] ++ [' '] ++ joinWith [' '] (bracketed n.severity :: (n.title ++ [n.url])),?_⟩
  simp [text,words,bracketed,joinWith_cons_cons]

lemma not_isRecord (marks : '"' ∉ n.template) (l : Line) : ¬ n.IsRecord l := by
  obtain ⟨rest,spelled⟩ := n.exists_text_eq
  rw [IsRecord,spelled]
  exact Decode.document_ne_ok_of_trailing (Json.trailing_read (by simpa using marks) rest) _ l

lemma readPlain_text (n : Notice) : readPlain n.text = some (n.finding (severityIn n.text)) := by
  have cut : Text.words n.text = n.words := words_joinWith fun w => isWord
  have ends : n.words = bracketed n.template :: bracketed n.protocol :: bracketed n.severity :: n.title ++ [n.url] := rfl
  have url : n.words.getLast? = some n.url := by rw [ends,List.getLast?_concat]
  have title : (n.words.drop 2).dropLast = bracketed n.severity :: n.title := by
    rw [ends]
    exact List.dropLast_concat
  have long : ¬ n.words.length < 3 := by simp [words]
  rw [readPlain,cut,if_neg long,url,title]
  rfl

lemma readLine_text (unread : ∀ l, ¬ n.IsRecord l) : readLine n.text = some (n.finding (severityIn n.text)) := by
  obtain ⟨rest,spelled⟩ := n.exists_text_eq
  have unlike : (n.text.head? == some '\x7b') = false := by
    rw [spelled]
    rfl
  rw [readLine,unlike,readPlain_text]
  split
  · next l read => exact absurd read (unread l)
  · rfl

lemma reportLines_text (n : Notice) : reportLines (String.ofList n.text).toList = [n.text] := by
  obtain ⟨rest,spelled⟩ := n.exists_text_eq
  have unbroken : '\n' ∉ n.text := by
    intro inside
    obtain space | ⟨w,listed,here⟩ := mem_joinWith inside
    · exact absurd space (by decide)
    · exact absurd ((isWord listed).unspaced _ here) (by decide)
  have trimmed : Trimmed n.text := trimmed_joinWith fun w => isWord
  have content : isContent n.text = true := by
    rw [spelled]
    rfl
  rw [String.toList_ofList,reportLines,rawLines_eq_singleton_iff.mpr unbroken,List.map_singleton,
    trim_eq_self trimmed,List.filter_singleton,content,cond_true]

/-- A report with the line in the middle. -/
def within (n : Notice) (a b : String) : String := a ++ "\n" ++ String.ofList n.text ++ "\n" ++ b

lemma readReport_within (n : Notice) (a b : String) : readReport (n.within a b) =
    readReport a ++ ((readLine n.text).toList.filter fun v => v.target != "") ++ readReport b := by
  rw [within,readReport_joined,readReport_joined]
  refine congrArg (readReport a ++ · ++ readReport b) ?_
  rw [readReport,reportLines_text,List.filterMap_cons,List.filterMap_nil]
  cases readLine n.text <;> rfl

end Reading

/-- A plain line in brackets gives a finding at its URL wherever it stands in a report, under the gravest severity that
one of its words mentions; so its own severity is told just if no other word mentions a graver one. Only when a
quotation mark in the template makes it a record as well is it read as that. -/
theorem gravest_mention_told (n : Notice) :
    ('"' ∉ n.template → ∀ l, ¬ n.IsRecord l) ∧
    ((∀ l, ¬ n.IsRecord l) → ∃ severity, n.Gravest severity ∧
      (severity = n.own ↔ ∀ g ∈ graver n.own, ∀ w ∈ n.others, ¬ Mentions w g) ∧
      ∀ a b, readReport (n.within a b) = readReport a ++ n.finding severity :: readReport b) ∧
    (∀ l, n.IsRecord l → ∀ a b, readReport (n.within a b) =
      readReport a ++ ([l.vulnerability].filter fun v => v.target != "") ++ readReport b) := by
  refine ⟨not_isRecord,fun unread => ⟨_,gravest_severityIn n,?_,fun a b => ?_⟩,fun l read a b => ?_⟩
  · rw [← gravest_own_iff]
    exact ⟨fun same => same ▸ gravest_severityIn n,fun gravest => (gravest_severityIn n).unique gravest⟩
  · have filled : ((n.finding (severityIn n.text)).target != "") = true := by
      simpa [finding] using n.url_word.filled
    rw [readReport_within,readLine_text unread,Option.toList_some,List.filter_singleton,filled,cond_true,
      List.append_assoc,List.singleton_append]
  · rw [readReport_within,readLine,read]
    rfl

/-- A low finding whose URL mentions a lower severity and whose title mentions its own. -/
def lowNotice : Notice where
  template := "weak-tls".toList
  protocol := "ssl".toList
  severity := "LOW".toList
  title := ["Not".toList,"[high:".toList,"[low]".toList]
  url := "https://b.c/[info]".toList
  template_unspaced := forall_mem_of_all (by decide)
  protocol_unspaced := forall_mem_of_all (by decide)
  severity_known := by decide
  title_words := by decide
  url_word := by decide

/-- None of these is graver, so it is a low finding. -/
theorem gravest_mention_told_low : '"' ∉ lowNotice.template ∧
    ∀ a b, readReport (lowNotice.within a b) = readReport a ++ lowNotice.finding "low" :: readReport b := by
  have marks : '"' ∉ lowNotice.template := by decide
  refine ⟨marks,?_⟩
  obtain ⟨unread,told,-⟩ := gravest_mention_told lowNotice
  obtain ⟨severity,-,own,found⟩ := told (unread marks)
  obtain rfl : severity = "low" := own.mpr (by decide)
  exact found

/-- A title that mentions a graver severity decides, and with a quotation mark in the template and at the end of the URL
nothing is found. -/
theorem mentioned_severity_told :
    (readReport "[t] [http] [info] See [critical] note https://x").map (·.severity) = ["critical"] ∧
    readReport "[\"] [http] [high] x \"]" = [] :=
  ⟨rfl,rfl⟩

end Notice

end Recon.Nuclei
