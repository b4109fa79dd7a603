import Recon.Proofs.Codec.Calendar
import Recon.Proofs.Text.Decimal
import Recon.Proofs.Text.Lines
import Recon.Tool.Gobuster

/-! The lines of a report on web paths. Each mark is looked for from the start of the line, and the characters with
which marks and arrows begin do not stand in a path. So every field is found where it was written, and a report is read
back entry by entry, whatever other lines there are. -/
namespace Recon

namespace Gobuster

open Text

/-- A number as it is written: digits, perhaps with zeros in front. -/
structure Digits where
  text : List Char
  filled : text ≠ []
  digits : ∀ c ∈ text, c.isDigit = true

/-- The value, or zero when it is not below `bound`. -/
def Digits.below (n : Digits) (bound : Nat) : Nat :=
  if Nat.ofDigitChars 10 n.text 0 < bound then Nat.ofDigitChars 10 n.text 0 else 0

/-- A path that was found, as the tool reports it. -/
structure Entry where
  /-- What follows the slash. -/
  name : List Char
  /-- Blanks up to the column of the status. -/
  column : List Char
  status : Digits
  size : Digits
  redirect : Option (List Char)
  plain : ∀ c ∈ name, isBlank c = false ∧ c ≠ '(' ∧ c ≠ '[' ∧ c ≠ '>'
  apart : column ≠ []
  spaces : ∀ c ∈ column, c = ' '
  word : ∀ target ∈ redirect, target ≠ [] ∧ ∀ c ∈ target, isBlank c = false ∧ c ≠ '[' ∧ c ≠ ']'

namespace Entry

/-- Where the path leads, if it is said. -/
def arrow (e : Entry) : List Char :=
  match e.redirect with
  | none => []
  | some target => " [--> ".toList ++ target ++ [']']

/-- What stands before the status. -/
def front (e : Entry) : List Char := '/' :: e.name ++ e.column

def text (e : Entry) : List Char :=
  e.front ++ "(Status: ".toList ++ e.status.text ++ ") [Size: ".toList ++ e.size.text ++ [']'] ++ e.arrow

/-- What is reported of the entry on the server `stem`, which is written without slashes at its end. -/
def path (stem : String) (e : Entry) : WebPath where
  url := stem ++ String.ofList ('/' :: e.name)
  path := String.ofList ('/' :: e.name)
  statusCode := UInt16.ofNat (e.status.below UInt16.size)
  length := UInt64.ofNat (e.size.below UInt64.size)
  title := (e.redirect.map fun target => "Redirect to: " ++ String.ofList target).getD ""

end Entry

/-- A line of a report: an entry, or something that does not begin with a slash. -/
inductive Line where
  | entry (e : Entry)
  | other (text : List Char) (unbroken : '\n' ∉ text) (apart : (trim text).head? ≠ some '/')

def Line.text : Line → List Char
  | .entry e => e.text
  | .other text _ _ => text

def Line.path? (stem : String) : Line → Option WebPath
  | .entry e => some (e.path stem)
  | .other _ _ _ => none

section Marks

variable {mark : List Char} {m close : Char}

/-- A mark is not found before its first character. -/
theorem number?_append {cs : List Char} (lacks : m ∉ cs) (rest : List Char) :
    number? (m :: mark) close (cs ++ rest) = number? (m :: mark) close rest := by
  induction cs with
  | nil => rfl
  | cons c cs ih =>
    rw [List.mem_cons,not_or] at lacks
    have missed : numberHere? (m :: mark) close (c :: cs ++ rest) = none := by
      rw [numberHere?,List.cons_append,after?,if_neg lacks.1]
    rw [List.cons_append,number?,← List.cons_append,missed,Option.orElse_none,ih lacks.2]

/-- A number after its mark and a blank is found with all of its digits. -/
theorem number?_here (n : Digits) (ends : isDecimalDigit close = false) (rest : List Char) :
    number? (m :: mark) close (m :: mark ++ ' ' :: (n.text ++ close :: rest)) = some n.text := by
  have digits : ∀ c ∈ n.text, isDecimalDigit c = true := fun c inside => isDecimalDigit_of_isDigit (n.digits c inside)
  obtain ⟨d,ds,spelled⟩ := List.exists_cons_of_ne_nil n.filled
  have blanks : (' ' :: (n.text ++ close :: rest)).dropWhile isBlank = n.text ++ close :: rest := by
    rw [List.dropWhile_cons_of_pos rfl,spelled,List.cons_append,
      List.dropWhile_cons_of_neg (by simp [not_isBlank_of_isDigit (n.digits d (spelled ▸ List.mem_cons_self))])]
  have here : numberHere? (m :: mark) close (m :: mark ++ ' ' :: (n.text ++ close :: rest)) = some n.text := by
    rw [numberHere?,after?_append]
    dsimp only
    rw [blanks,takeWhile_append_cons digits ends,dropWhile_append_cons digits ends]
    simp [n.filled]
  rw [List.cons_append,number?,← List.cons_append,here]
  rfl

lemma number_of_number? {line : List Char} {n : Digits} (found : number? mark close line = some n.text) :
    number mark close line = n.below UInt64.size := by
  have value : readNat? n.text = some (Nat.ofDigitChars 10 n.text 0) :=
    readNat?_eq_some_iff.mpr ⟨n.filled,n.digits,rfl⟩
  rw [number,found,Option.bind_some,readBelow?,value,Digits.below]
  split
  · next held => rw [Option.filter_some_pos (by simpa using held)]; rfl
  · next large => rw [Option.filter_some_neg (by simpa using large)]; rfl

end Marks

section Arrows

/-- An arrow begins with a dash, has its head right after one or two of them, and is looked for from the start. -/
theorem redirect?_cons {c : Char} {cs : List Char}
    (plain : c = '-' → ∀ rest, cs ≠ '>' :: rest ∧ cs ≠ '-' :: '>' :: rest) : redirect? (c :: cs) = redirect? cs := by
  by_cases dash : c = '-'
  · subst dash
    rw [redirect?,Option.orElse_none]
    · exact fun rest => (plain rfl rest).1
    · exact fun rest => (plain rfl rest).2
  · rw [redirect?]
    exact dash

lemma redirect?_eq_none {cs : List Char} (headless : '>' ∉ cs) : redirect? cs = none := by
  induction cs with
  | nil => rfl
  | cons c cs ih =>
    rw [List.mem_cons,not_or] at headless
    refine (redirect?_cons fun _ rest => ⟨?_,?_⟩).trans (ih headless.2)
    · rintro rfl
      exact headless.2 List.mem_cons_self
    · rintro rfl
      exact headless.2 (List.mem_cons_of_mem _ List.mem_cons_self)

lemma redirect?_append {cs : List Char} (headless : '>' ∉ cs) (rest : List Char) :
    redirect? (cs ++ '[' :: rest) = redirect? rest := by
  induction cs with
  | nil => exact redirect?_cons nofun
  | cons c cs ih =>
    rw [List.mem_cons,not_or] at headless
    refine (redirect?_cons fun _ rest' => ?_).trans (ih headless.2)
    -- the two characters that would have to follow are before the bracket
    cases cs with
    | nil => exact ⟨nofun,nofun⟩
    | cons d cs =>
      rw [List.mem_cons,not_or] at headless
      refine ⟨fun same => headless.2.1 (List.cons.inj same).1.symm,fun same => ?_⟩
      have more := (List.cons.inj same).2
      cases cs with
      | nil => cases more
      | cons e cs => exact headless.2.2 ((List.cons.inj more).1 ▸ List.mem_cons_self)

lemma redirect?_here {target : List Char} (filled : target ≠ [])
    (word : ∀ c ∈ target, isBlank c = false ∧ c ≠ '[' ∧ c ≠ ']') :
    redirect? ("--> ".toList ++ target ++ [']']) = some target := by
  obtain ⟨c,cs,spelled⟩ := List.exists_cons_of_ne_nil filled
  have visible : isBlank c = false := (word c (spelled ▸ List.mem_cons_self)).1
  have all : ∀ c ∈ target, (!isBlank c && c != '[' && c != ']') = true := fun c inside => by
    obtain ⟨visible,opening,closing⟩ := word c inside
    simp [visible,opening,closing]
  have blanks : (' ' :: (target ++ [']'])).dropWhile isBlank = target ++ [']'] := by
    rw [List.dropWhile_cons_of_pos rfl,spelled,List.cons_append,List.dropWhile_cons_of_neg (by simp [visible])]
  have pointee : pointee? (' ' :: (target ++ [']'])) = some target := by
    rw [pointee?,blanks,takeWhile_append_cons all rfl]
    simp [filled]
  have opened : "--> ".toList ++ target ++ [']'] = '-' :: '-' :: '>' :: ' ' :: (target ++ [']']) := rfl
  rw [opened,redirect?,pointee]
  rfl

end Arrows

section Entries

variable (e : Entry)

lemma Entry.column_eq : ∃ cs, e.column = ' ' :: cs := by
  obtain ⟨c,cs,spelled⟩ := List.exists_cons_of_ne_nil e.apart
  exact ⟨cs,by rw [spelled,e.spaces c (spelled ▸ List.mem_cons_self)]⟩

/-- No character with which a mark begins, and no head of an arrow, stands before the status. -/
theorem Entry.not_mem_front {c : Char} (mark : c = '(' ∨ c = '[' ∨ c = '>') : c ∉ e.front := by
  intro inside
  obtain first | later := List.mem_cons.mp inside
  · subst first
    simp at mark
  · obtain inside | inside := List.mem_append.mp later
    · obtain ⟨-,round,square,head⟩ := e.plain c inside
      obtain rfl | rfl | rfl := mark
      · exact round rfl
      · exact square rfl
      · exact head rfl
    · rw [e.spaces c inside] at mark
      simp at mark

lemma Digits.not_mem (n : Digits) {c : Char} (other : c.isDigit = false) : c ∉ n.text := fun inside =>
  Bool.false_ne_true (other.symm.trans (n.digits c inside))

lemma Entry.status_found : number? statusMark ')' e.text = some e.status.text := by
  have parted : e.text = e.front ++ (statusMark ++ ' ' :: (e.status.text ++ ')' ::
      (" [Size: ".toList ++ e.size.text ++ [']'] ++ e.arrow))) := by
    simp [Entry.text,statusMark]
  rw [parted,statusMark,number?_append (e.not_mem_front (.inl rfl))]
  exact number?_here e.status rfl _

lemma Entry.size_found : number? sizeMark ']' e.text = some e.size.text := by
  have parted : e.text = (e.front ++ "(Status: ".toList ++ e.status.text ++ ") ".toList) ++
      (sizeMark ++ ' ' :: (e.size.text ++ ']' :: e.arrow)) := by
    simp [Entry.text,sizeMark]
  have lacks : '[' ∉ e.front ++ "(Status: ".toList ++ e.status.text ++ ") ".toList := by
    simp [e.not_mem_front,e.status.not_mem]
  rw [parted,sizeMark,number?_append lacks]
  exact number?_here e.size rfl _

lemma Entry.redirect_found : redirect? e.text = e.redirect := by
  have headless : '>' ∉ e.front ++ "(Status: ".toList ++ e.status.text ++ ") [Size: ".toList ++ e.size.text ++ [']'] := by
    simp [e.not_mem_front,e.status.not_mem,e.size.not_mem]
  cases leads : e.redirect with
  | none =>
    have parted : e.text =
        e.front ++ "(Status: ".toList ++ e.status.text ++ ") [Size: ".toList ++ e.size.text ++ [']'] := by
      simp [Entry.text,Entry.arrow,leads]
    rw [parted,redirect?_eq_none headless]
  | some target =>
    obtain ⟨filled,word⟩ := e.word target leads
    have parted : e.text = (e.front ++ "(Status: ".toList ++ e.status.text ++ ") [Size: ".toList ++ e.size.text ++
        "] ".toList) ++ '[' :: ("--> ".toList ++ target ++ [']']) := by
      simp [Entry.text,Entry.arrow,leads]
    rw [parted,redirect?_append (by simpa using headless),redirect?_here filled word]

/-- The path goes up to the blanks before the status. -/
theorem Entry.path_found : e.text.takeWhile (fun c => !isBlank c) = '/' :: e.name := by
  obtain ⟨cs,column⟩ := e.column_eq
  have visible : ∀ c ∈ '/' :: e.name, (!isBlank c) = true := List.forall_mem_cons.mpr
    ⟨rfl,fun c inside => by simp [(e.plain c inside).1]⟩
  have parted : e.text = '/' :: e.name ++ ' ' :: (cs ++ "(Status: ".toList ++ e.status.text ++ ") [Size: ".toList ++
      e.size.text ++ [']'] ++ e.arrow) := by
    simp [Entry.text,Entry.front,column]
  rw [parted,takeWhile_append_cons visible rfl]

/-- A status beyond 16 bits is zero, whether it fits 64 bits or not. -/
theorem Digits.ofNat_below (n : Digits) : (if n.below UInt64.size < UInt16.size then
    UInt16.ofNat (n.below UInt64.size) else 0) = UInt16.ofNat (n.below UInt16.size) := by
  have narrow : UInt16.size < UInt64.size := by decide
  unfold Digits.below
  generalize Nat.ofDigitChars 10 n.text 0 = v
  by_cases small : v < UInt16.size
  · rw [if_pos (small.trans narrow),if_pos small,if_pos small]
  · rw [if_neg small]
    by_cases held : v < UInt64.size
    · rw [if_pos held,if_neg small]
      rfl
    · rw [if_neg held]
      rfl

lemma Entry.readLine_text (base : String) : readLine base e.text = some (e.path (dropSlashes base)) := by
  have slash : ¬ (e.text.head? != some '/') = true := by simp [Entry.text,Entry.front]
  rw [readLine,if_neg slash]
  simp only [number_of_number? e.status_found,Digits.ofNat_below,e.path_found,number_of_number? e.size_found,
    e.redirect_found,Entry.path]

/-- An entry begins with a slash and ends with a bracket. -/
theorem Entry.trim_text : trim e.text = e.text := by
  refine trim_eq_self ⟨fun c lead => Option.some.inj lead ▸ rfl,fun c final => ?_⟩
  cases leads : e.redirect with
  | none =>
    simp only [Entry.text,Entry.arrow,leads,List.append_nil,List.getLast?_concat] at final
    exact Option.some.inj final ▸ rfl
  | some target =>
    simp only [Entry.text,Entry.arrow,leads,← List.append_assoc,List.getLast?_concat] at final
    exact Option.some.inj final ▸ rfl

lemma Entry.newline_not_mem : '\n' ∉ e.text := by
  have name : '\n' ∉ e.name := fun inside => Bool.false_ne_true (e.plain _ inside).1.symm
  have column : '\n' ∉ e.column := fun inside => absurd (e.spaces _ inside) (by decide)
  have arrow : '\n' ∉ e.arrow := by
    cases leads : e.redirect with
    | none => simp [Entry.arrow,leads]
    | some target =>
      have word : '\n' ∉ target := fun inside => Bool.false_ne_true ((e.word target leads).2 _ inside).1.symm
      simp [Entry.arrow,leads,word]
  simp [Entry.text,Entry.front,name,column,arrow,e.status.not_mem,e.size.not_mem]

end Entries

/-- The server `stem` is `base` without the slashes at its end. -/
structure Stem (base stem : String) : Prop where
  bare : stem.toList.getLast? ≠ some '/'
  slashes : ∃ n, base.toList = stem.toList ++ List.replicate n '/'

lemma stem_dropSlashes (base : String) : Stem base (dropSlashes base) where
  bare final := by
    rw [dropSlashes,String.toList_ofList] at final
    have filled : dropEndWhile (· == '/') base.toList ≠ [] := by
      intro empty
      rw [empty] at final
      cases final
    have stops : ¬ ((dropEndWhile (· == '/') base.toList).getLast filled == '/') = true :=
      List.rdropWhile_last_not (· == '/') base.toList filled
    rw [List.getLast?_eq_some_getLast filled,Option.some.injEq] at final
    exact stops (beq_iff_eq.mpr final)
  slashes := by
    refine ⟨(base.toList.rtakeWhile (· == '/')).length,?_⟩
    have slashes : base.toList.rtakeWhile (· == '/') = List.replicate _ '/' :=
      List.eq_replicate_of_mem fun c inside => by simpa using List.mem_rtakeWhile_imp inside
    rw [← slashes,dropSlashes,String.toList_ofList]
    exact (List.rdropWhile_append_rtakeWhile ..).symm

section Lines

variable (l : Line)

lemma Line.newline_not_mem : '\n' ∉ l.text := by
  cases l with
  | entry e => exact e.newline_not_mem
  | other text unbroken apart => exact unbroken

/-- An entry is read, and of another line nothing is taken. -/
theorem Line.readLine_trim (base : String) :
    (if isContent (trim l.text) then readLine base (trim l.text) else none) = l.path? (dropSlashes base) := by
  cases l with
  | entry e =>
    have content : isContent e.text = true := rfl
    simp only [Line.text,Line.path?,e.trim_text,content,if_true,e.readLine_text]
  | other text unbroken apart =>
    have passed : readLine base (trim text) = none := by
      rw [readLine,if_pos (by simpa using apart)]
    simp only [Line.text,Line.path?,passed,ite_self]

end Lines

/-- A report made of entries and of other lines, in any order, tells just the entries, in order and each with its own
path, status, size and redirect. A status that does not fit 16 bits and a size that does not fit 64 count as zero, and
the URL is the path behind the base without its last slashes. -/
theorem entries_read_back (base : String) (ls : List Line) : ∃ stem, Stem base stem ∧
    readReport base (String.ofList (['\n'].intercalate (ls.map Line.text))) = ls.filterMap (Line.path? stem) := by
  refine ⟨dropSlashes base,stem_dropSlashes base,?_⟩
  have unbroken : ∀ text ∈ ls.map Line.text, '\n' ∉ text := by
    intro text inside
    obtain ⟨l,-,rfl⟩ := List.mem_map.mp inside
    exact l.newline_not_mem
  rw [readReport,String.toList_ofList,reportLines_intercalate unbroken,List.filterMap_filter,List.filterMap_map,
    List.filterMap_map]
  exact congrArg (List.filterMap · ls) (funext fun l => l.readLine_trim base)

/-- A path that leads on. -/
def adminEntry : Entry where
  name := "admin-".toList
  column := [' ',' ']
  status := ⟨"301".toList,by decide,forall_mem_of_all (by decide)⟩
  size := ⟨"0178".toList,by decide,forall_mem_of_all (by decide)⟩
  redirect := some "(Status:1)-->x".toList
  plain := forall_mem_of_all (by decide)
  apart := by decide
  spaces := forall_mem_of_all (by decide)
  word := by
    rintro _ ⟨⟩
    exact ⟨by decide,forall_mem_of_all (by decide)⟩

/-- Marks and an arrow in the redirect, which comes last, do not count. -/
theorem entries_read_back_admin : (readReport "https://a.b//"
    "Progress: 1\n/admin-  (Status: 301) [Size: 0178] [--> (Status:1)-->x]").map
      (fun w => (w.path,w.statusCode,w.length,w.title)) = [("/admin-",301,178,"Redirect to: (Status:1)-->x")] := by
  obtain ⟨stem,-,read⟩ := entries_read_back "https://a.b//"
    [.other "Progress: 1".toList (by decide) (by decide),.entry adminEntry]
  have text : "Progress: 1\n/admin-  (Status: 301) [Size: 0178] [--> (Status:1)-->x]" =
      String.ofList (['\n'].intercalate ([Line.other "Progress: 1".toList (by decide) (by decide),
        .entry adminEntry].map Line.text)) := by decide
  rw [text,read]
  rfl

end Gobuster
end Recon
