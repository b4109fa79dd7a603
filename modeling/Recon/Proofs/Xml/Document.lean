import Recon.Proofs.Xml.Attribute

/-! XML texts as they can be written. A document with its comments, instructions and blanks is cut into pieces, and from
these its tree of elements is built again. -/
namespace Recon.Xml

/-- Running text, in which every reference is known. -/
structure Run (run : List Char) : Prop where
  plain : '<' ∉ run
  spelled : ∃ cs, Spelling run cs

/-- Markup that tells nothing: a comment, or an instruction to some other program. -/
inductive Aside : List Char → Prop
  | comment {body : List Char} (whole : ¬ ['-','-','>'] <:+: body) :
      Aside ('<' :: '!' :: '-' :: '-' :: (body ++ ['-','-','>']))
  | instruction {body : List Char} (begun : body.head? ≠ some '>') (whole : ¬ ['?','>'] <:+: body) :
      Aside ('<' :: '?' :: (body ++ ['?','>']))

/-- The text of an element, which needs no closing tag when nothing is in it. -/
inductive Encloses (name raw inner : List Char) : List Char → Prop
  | pair {gap : List Char} (blank : Gap gap) :
      Encloses name raw inner ('<' :: (name ++ raw ++ '>' :: (inner ++ '<' :: '/' :: (name ++ gap ++ ['>']))))
  | single (empty : inner = []) : Encloses name raw inner ('<' :: (name ++ raw ++ ['/','>']))

/-- The node of a run of text, if there is any. -/
def runNodes (run : List Char) : List Node := if run.isEmpty then [] else [.text run]

/-- What stands in an element, and its nodes. -/
inductive Contents : List Char → List Node → Prop
  | last {run : List Char} (r : Run run) : Contents run (runNodes run)
  | aside {run mark cs : List Char} {ns : List Node} (r : Run run) (a : Aside mark) (more : Contents cs ns) :
      Contents (run ++ mark ++ cs) (runNodes run ++ ns)
  | cdata {run content cs : List Char} {ns : List Node} (r : Run run) (whole : ¬ [']',']','>'] <:+: content)
      (more : Contents cs ns) : Contents (run ++ '<' :: '!' :: (cdataMark ++ content ++ [']',']','>']) ++ cs)
        (runNodes run ++ .cdata content :: ns)
  | element {run name raw inner e cs : List Char} {as : List (List Char × List Char)} {children ns : List Node}
      (r : Run run) (named : IsName name) (attributes : Attributes raw as) (inside : Contents inner children)
      (enclosed : Encloses name raw inner e) (more : Contents cs ns) :
      Contents (run ++ e ++ cs) (runNodes run ++ .element name raw children :: ns)

/-- What may stand before the root: blanks, comments and instructions, and the type of the document. -/
inductive Prologue : List Char → Prop
  | last {gap : List Char} (blank : Gap gap) : Prologue gap
  | aside {gap mark rest : List Char} (blank : Gap gap) (a : Aside mark) (more : Prologue rest) :
      Prologue (gap ++ mark ++ rest)
  | doctype {gap body rest : List Char} (blank : Gap gap) (named : ¬ Gap body) (plain : '<' ∉ body ∧ '>' ∉ body)
      (more : Prologue rest) : Prologue (gap ++ '<' :: '!' :: (doctypeMark ++ body ++ ['>']) ++ rest)

/-- A text with its root element. What follows the root is of no matter. -/
inductive Document : List Char → Node → Prop
  | mk {front name raw inner e after : List Char} {as : List (List Char × List Char)} {children : List Node}
      (prologue : Prologue front) (named : IsName name) (attributes : Attributes raw as)
      (inside : Contents inner children) (enclosed : Encloses name raw inner e) :
      Document (front ++ e ++ after) (.element name raw children)

section Pieces

variable {cs : List Char}

lemma tokensFrom_cons (mode : Mode) (c : Char) (cs : List Char) :
    tokensFrom mode (c :: cs) = (step mode c).1 ++ tokensFrom (step mode c).2 cs := by
  cases mode <;> rfl

/-- A piece goes on until a character ends it. -/
theorem tokensFrom_stays {M : List Char → Mode} {Ends : List Char → Char → Prop}
    (stays : ∀ read c, ¬ Ends read c → step (M read) c = ([],M (c :: read))) (read rest : List Char)
    (inside : ∀ front c back, cs = front ++ c :: back → ¬ Ends (front.reverse ++ read) c) :
    tokensFrom (M read) (cs ++ rest) = tokensFrom (M (cs.reverse ++ read)) rest := by
  induction cs generalizing read with
  | nil => rfl
  | cons c cs ih =>
    have first : ¬ Ends read c := inside [] c cs rfl
    have later : ∀ front d back, cs = front ++ d :: back → ¬ Ends (front.reverse ++ c :: read) d := by
      rintro front d back rfl
      have := inside (c :: front) d back rfl
      rwa [List.reverse_cons,List.append_assoc] at this
    rw [List.cons_append,tokensFrom_cons,stays read c first,List.nil_append,ih (c :: read) later,List.reverse_cons,
      List.append_assoc]
    rfl

/-- As `tokensFrom_stays`, where it does not matter what has been read. -/
theorem tokensFrom_stays_of_mem {M : List Char → Mode} {ends : Char → Prop}
    (stays : ∀ read c, ¬ ends c → step (M read) c = ([],M (c :: read))) (read rest : List Char)
    (inside : ∀ c ∈ cs, ¬ ends c) : tokensFrom (M read) (cs ++ rest) = tokensFrom (M (cs.reverse ++ read)) rest := by
  have outside : ∀ front c back, cs = front ++ c :: back → ¬ ends c := by
    rintro front c back rfl
    exact inside c (List.mem_append_right _ List.mem_cons_self)
  exact tokensFrom_stays stays read rest outside

lemma tokensFrom_run (plain : '<' ∉ cs) (rest : List Char) : tokensFrom (.text []) (cs ++ '<' :: rest) =
    textTokens cs.reverse ++ tokensFrom (.text []) ('<' :: rest) := by
  have stays : ∀ read c, ¬ c = '<' → step (.text read) c = ([],.text (c :: read)) := fun read c other =>
    if_neg (by simpa using other)
  rw [tokensFrom_stays_of_mem stays [] _ fun c inside same => plain (same ▸ inside),List.append_nil,tokensFrom_cons]
  rfl

/-- Where two marks come right before a closing bracket, all three stand in the text. -/
theorem infix_of_take_two {front begun back : List Char} {a b : Char} (long : 2 ≤ front.length)
    (marks : (front.reverse ++ begun).take 2 = [b,a]) : [a,b,'>'] <:+: front ++ '>' :: back := by
  rw [List.take_append_of_le_length (by simpa using long)] at marks
  have cut : (front.reverse.drop 2).reverse ++ [a,b] = front := by
    rw [← List.reverse_inj,List.reverse_append,List.reverse_reverse]
    change [b,a] ++ front.reverse.drop 2 = front.reverse
    rw [← marks,List.take_append_drop]
  refine ⟨(front.reverse.drop 2).reverse,back,?_⟩
  change _ ++ ([a,b] ++ ['>']) ++ back = _
  rw [← List.append_assoc,cut,List.append_assoc,List.singleton_append]

lemma tokensFrom_comment (whole : ¬ ['-','-','>'] <:+: cs) (rest : List Char) :
    tokensFrom (.text []) ('<' :: '!' :: '-' :: '-' :: (cs ++ ['-','-','>']) ++ rest) = tokensFrom (.text []) rest := by
  have stays : ∀ read c, ¬ (c = '>' ∧ 4 ≤ read.length ∧ read.take 2 = ['-','-']) →
      step (.comment read) c = ([],.comment (c :: read)) := fun read c other =>
    if_neg (by simpa [and_assoc] using other)
  have outside : ∀ front c back, cs = front ++ c :: back →
      ¬ (c = '>' ∧ 4 ≤ (front.reverse ++ ['-','-']).length ∧ (front.reverse ++ ['-','-']).take 2 = ['-','-']) := by
    rintro front c back rfl ⟨rfl,long,marks⟩
    exact whole (infix_of_take_two (by simpa using long) marks)
  have closes : step (.comment ('-' :: '-' :: (cs.reverse ++ ['-','-']))) '>' = ([],.text []) := by
    simp [step]
  change tokensFrom (.comment ['-','-']) (cs ++ ['-','-','>'] ++ rest) = _
  rw [List.append_assoc,tokensFrom_stays stays _ _ outside]
  change tokensFrom (.comment ('-' :: '-' :: (cs.reverse ++ ['-','-']))) ('>' :: rest) = _
  rw [tokensFrom_cons,closes,List.nil_append]

lemma tokensFrom_instruction (begun : cs.head? ≠ some '>') (whole : ¬ ['?','>'] <:+: cs) (rest : List Char) :
    tokensFrom (.text []) ('<' :: '?' :: (cs ++ ['?','>']) ++ rest) = tokensFrom (.text []) rest := by
  have stays : ∀ read c, ¬ (c = '>' ∧ (read = [] ∨ read.head? = some '?')) →
      step (.instruction read) c = ([],.instruction (c :: read)) := by
    intro read c other
    simp only [not_and,not_or] at other
    rw [step,if_neg (by simpa using fun angle => (other angle).1),if_neg (by simpa using fun angle => (other angle).2)]
  have outside : ∀ front c back, cs = front ++ c :: back →
      ¬ (c = '>' ∧ (front.reverse ++ [] = [] ∨ (front.reverse ++ []).head? = some '?')) := by
    rintro front c back rfl ⟨rfl,first | mark⟩
    · obtain rfl : front = [] := by simpa using first
      exact begun rfl
    · rw [List.append_nil,List.head?_reverse] at mark
      obtain ⟨more,rfl⟩ := List.getLast?_eq_some_iff.mp mark
      exact whole ⟨more,back,by simp⟩
  change tokensFrom (.instruction []) (cs ++ ['?','>'] ++ rest) = _
  rw [List.append_assoc,tokensFrom_stays stays _ _ outside]
  rfl

lemma Aside.exists_cons {mark : List Char} (h : Aside mark) : ∃ cs, mark = '<' :: cs := by
  cases h <;> exact ⟨_,rfl⟩

lemma Aside.tokensFrom {mark : List Char} (h : Aside mark) (rest : List Char) :
    Xml.tokensFrom (.text []) (mark ++ rest) = Xml.tokensFrom (.text []) rest := by
  cases h with
  | comment whole => exact tokensFrom_comment whole rest
  | instruction begun whole => exact tokensFrom_instruction begun whole rest

lemma tokensFrom_cdata (whole : ¬ [']',']','>'] <:+: cs) (rest : List Char) :
    tokensFrom (.text []) ('<' :: '!' :: (cdataMark ++ cs ++ [']',']','>']) ++ rest) =
      .cdata cs :: tokensFrom (.text []) rest := by
  have stays : ∀ read c, ¬ (c = '>' ∧ read.take 2 = [']',']']) → step (.cdata read) c = ([],.cdata (c :: read)) :=
    fun read c other => if_neg (by simpa using other)
  have outside : ∀ front c back, cs = front ++ c :: back →
      ¬ (c = '>' ∧ (front.reverse ++ cdataMark.reverse).take 2 = [']',']']) := by
    rintro front c back rfl ⟨rfl,marks⟩
    -- the mark in front ends with another bracket, so both stand in the data
    have long : 2 ≤ front.length := by
      rcases front with _ | ⟨a,_ | ⟨b,more⟩⟩
      · simp [cdataMark] at marks
      · simp [cdataMark] at marks
      · simp
    exact whole (infix_of_take_two long marks)
  have closes : step (.cdata (']' :: ']' :: (cs.reverse ++ cdataMark.reverse))) '>' = ([.cdata cs],.text []) := by
    simp [step,cdataMark]
  change tokensFrom (.cdata cdataMark.reverse) (cs ++ [']',']','>'] ++ rest) = _
  rw [List.append_assoc,tokensFrom_stays stays _ _ outside]
  change tokensFrom (.cdata (']' :: ']' :: (cs.reverse ++ cdataMark.reverse))) ('>' :: rest) = _
  rw [tokensFrom_cons,closes,List.singleton_append]

lemma tokensFrom_doctype (named : ¬ Gap cs) (plain : '<' ∉ cs ∧ '>' ∉ cs) (rest : List Char) :
    tokensFrom (.text []) ('<' :: '!' :: (doctypeMark ++ cs ++ ['>']) ++ rest) = tokensFrom (.text []) rest := by
  have stays : ∀ read c, ¬ (c = '<' ∨ c = '>') → step (.doctype 0 read) c = ([],.doctype 0 (c :: read)) := by
    intro read c other
    rw [not_or] at other
    rw [step,if_neg (by simpa using other.1),if_neg (by simpa using other.2)]
  have outside : ∀ c ∈ cs, ¬ (c = '<' ∨ c = '>') := by
    rintro c inside (rfl | rfl)
    · exact plain.1 inside
    · exact plain.2 inside
  have shown : ∃ c ∈ cs, isGap c = false := by simpa [Gap] using named
  have closes : step (.doctype 0 (cs.reverse ++ doctypeMark.reverse)) '>' = ([],.text []) := by
    simpa [step,doctypeMark,beginsWith] using shown
  change tokensFrom (.doctype 0 doctypeMark.reverse) (cs ++ ['>'] ++ rest) = _
  rw [List.append_assoc,tokensFrom_stays_of_mem stays _ _ outside]
  change tokensFrom (.doctype 0 (cs.reverse ++ doctypeMark.reverse)) ('>' :: rest) = _
  rw [tokensFrom_cons,closes,List.nil_append]

lemma textTokens_gap (blank : Gap cs) (ts : List Token) : build [] (textTokens cs.reverse ++ ts) = build [] ts := by
  rw [textTokens]
  split
  · rfl
  · rw [List.reverse_reverse,List.singleton_append,build,if_pos (List.all_eq_true.mpr blank)]

lemma lt_not_mem_of_gap (blank : Gap cs) : '<' ∉ cs := fun inside => absurd (blank _ inside) (by decide)

/-- Before the root nothing is built. -/
theorem Prologue.build {front : List Char} (h : Prologue front) (rest : List Char) :
    Xml.build [] (tokensFrom (.text []) (front ++ '<' :: rest)) = Xml.build [] (tokensFrom (.text []) ('<' :: rest)) := by
  induction h with
  | last blank => rw [tokensFrom_run (lt_not_mem_of_gap blank),textTokens_gap blank]
  | @aside gap mark more blank a further ih =>
    obtain ⟨c,rfl⟩ := a.exists_cons
    rw [List.append_assoc,List.append_assoc,List.cons_append,tokensFrom_run (lt_not_mem_of_gap blank),
      textTokens_gap blank,← List.cons_append,a.tokensFrom,ih]
  | @doctype gap body more blank named plain further ih =>
    rw [List.append_assoc,List.append_assoc,List.cons_append,tokensFrom_run (lt_not_mem_of_gap blank),
      textTokens_gap blank,← List.cons_append,tokensFrom_doctype named plain,ih]

lemma tokens_gap (blank : Gap cs) (rest : List Char) :
    tokens (cs ++ '<' :: rest) = tokensFrom (.text []) (cs ++ '<' :: rest) := by
  cases cs with
  | nil => rfl
  | cons c cs =>
    have other : c ≠ '\ufeff' := by
      rintro rfl
      exact absurd (blank _ List.mem_cons_self) (by decide)
    rw [List.cons_append,tokens]
    rintro cs' same
    exact other (List.cons.inj same).1

/-- A document has no byte order mark. -/
theorem Prologue.tokens_eq {front : List Char} (h : Prologue front) (rest : List Char) :
    tokens (front ++ '<' :: rest) = tokensFrom (.text []) (front ++ '<' :: rest) := by
  cases h with
  | last blank => exact tokens_gap blank rest
  | @aside gap mark more blank a further =>
    obtain ⟨c,rfl⟩ := a.exists_cons
    rw [List.append_assoc,List.append_assoc,List.cons_append,tokens_gap blank]
  | doctype blank named plain further =>
    rw [List.append_assoc,List.append_assoc,List.cons_append,tokens_gap blank]

end Pieces

section Tags

variable {cs name raw : List Char} {as : List (List Char × List Char)}

/-- Inside a tag the text is passed without an end. -/
def Passes (cs : List Char) : Prop := ∀ read rest,
  tokensFrom (.opening none read) (cs ++ rest) = tokensFrom (.opening none (cs.reverse ++ read)) rest

lemma Passes.append {ds : List Char} (h : Passes cs) (h' : Passes ds) : Passes (cs ++ ds) := by
  intro read rest
  rw [List.append_assoc,h,h',List.reverse_append,List.append_assoc]

lemma passes_of_unquoted (plain : ∀ c ∈ cs, c ≠ '>' ∧ c ≠ '"' ∧ c ≠ '\x27') : Passes cs := by
  have stays : ∀ read c, ¬ (c = '>' ∨ c = '"' ∨ c = '\x27') →
      step (.opening none read) c = ([],.opening none (c :: read)) := by
    intro read c other
    rw [not_or,not_or] at other
    simp [step,openingStep,other]
  intro read rest
  refine tokensFrom_stays_of_mem stays read rest fun c inside => ?_
  simpa using plain c inside

lemma passes_gap (blank : Gap cs) : Passes cs := passes_of_unquoted fun c inside => by
  have gap := blank c inside
  refine ⟨?_,?_,?_⟩ <;> (rintro rfl; cases gap)

lemma passes_name (plain : ∀ c ∈ cs, isNameChar c = true) : Passes cs := passes_of_unquoted fun c inside =>
  ⟨ne_of_isNameChar (plain c inside) rfl,ne_of_isNameChar (plain c inside) rfl,ne_of_isNameChar (plain c inside) rfl⟩

lemma passes_quoted {quote : Char} (mark : quote = '"' ∨ quote = '\x27') (inside : quote ∉ cs) :
    Passes (quote :: (cs ++ [quote])) := by
  have opens : ∀ read, step (.opening none read) quote = ([],.opening (some quote) (quote :: read)) := by
    intro read
    obtain rfl | rfl := mark <;> rfl
  have stays : ∀ read c, ¬ c = quote → step (.opening (some quote) read) c = ([],.opening (some quote) (c :: read)) := by
    intro read c other
    simp [step,openingStep,other]
  have closes : ∀ read, step (.opening (some quote) read) quote = ([],.opening none (quote :: read)) := by
    intro read
    simp [step,openingStep]
  intro read rest
  rw [List.cons_append,tokensFrom_cons,opens,List.nil_append,List.append_assoc,
    tokensFrom_stays_of_mem stays _ _ fun c here same => inside (same ▸ here),List.singleton_append,tokensFrom_cons,
    closes,List.nil_append]
  simp

lemma Written.passes (h : Written raw as) : Passes raw := by
  induction h with
  | last blank => exact passes_gap blank
  | @next gap key before after value rest quote as apart blank name blankBefore blankAfter mark inside more ih =>
    have equals : Passes ['='] := passes_of_unquoted (List.forall_mem_singleton.mpr (by decide))
    have whole : Passes (gap ++ key ++ before ++ (['='] ++ (after ++ (quote :: (value ++ [quote]) ++ rest)))) :=
      (((passes_gap blank).append (passes_name name.plain)).append (passes_gap blankBefore)).append
        (equals.append ((passes_gap blankAfter).append ((passes_quoted mark inside).append ih)))
    simpa using whole

/-- No slash at the end, which would close the tag, and a blank in front. -/
theorem Written.ends (h : Written raw as) : raw.getLast? ≠ some '/' ∧ ∀ c, raw.head? = some c → isGap c = true := by
  induction h with
  | last blank =>
    refine ⟨fun slash => ?_,fun c first => blank c (List.mem_of_head? first)⟩
    exact absurd (blank _ (List.mem_of_getLast? slash)) (by decide)
  | @next gap key before after value rest quote as apart blank name blankBefore blankAfter mark inside more ih =>
    constructor
    · have last : (gap ++ key ++ before ++ '=' :: (after ++ quote :: (value ++ quote :: rest))).getLast? =
          (quote :: rest).getLast? := by
        simp [List.getLast?_append,List.getLast?_cons]
      rw [last,List.getLast?_cons]
      cases final : rest.getLast? with
      | none => obtain rfl | rfl := mark <;> decide
      | some c => exact fun slash => ih.1 (final.trans slash)
    · obtain ⟨g,gs,rfl⟩ := List.exists_cons_of_ne_nil apart
      rintro _ ⟨⟩
      exact blank g List.mem_cons_self

lemma openingToken_append (named : IsName name) (attributes : Attributes raw as) :
    openingToken (name ++ raw) = .opening name raw false ∧
    openingToken (name ++ raw ++ ['/']) = .opening name raw true := by
  obtain ⟨last,first⟩ := attributes.written.ends
  have plain : ∀ c ∈ name, !isGap c := by
    intro c inside
    rw [not_isGap_of_isNameChar (named.plain c inside)]
    rfl
  have stop : raw.takeWhile (fun c => !isGap c) = [] ∧ raw.dropWhile (fun c => !isGap c) = raw := by
    cases raw with
    | nil => exact ⟨rfl,rfl⟩
    | cons c cs => simp [first c rfl]
  have cut : (name ++ raw).takeWhile (fun c => !isGap c) = name ∧ (name ++ raw).dropWhile (fun c => !isGap c) = raw := by
    rw [List.takeWhile_append_of_pos plain,List.dropWhile_append_of_pos plain,stop.1,stop.2,List.append_nil]
    exact ⟨rfl,rfl⟩
  have stays : ((name ++ raw).getLast? == some '/') = false := by
    refine beq_false_of_ne fun slash => ?_
    rw [List.getLast?_append,Option.or_eq_some_iff] at slash
    obtain slash | ⟨-,slash⟩ := slash
    · exact last slash
    · exact absurd (named.plain _ (List.mem_of_getLast? slash)) (by decide)
  have closes : ((name ++ raw ++ ['/']).getLast? == some '/') = true := by rw [List.getLast?_concat,beq_self_eq_true]
  constructor
  · simp only [openingToken,stays,Bool.false_eq_true,if_false,cut]
  · simp only [openingToken,closes,if_true,List.dropLast_concat,cut]

lemma tokensFrom_tag (named : IsName name) (attributes : Attributes raw as) (rest : List Char) :
    tokensFrom (.text []) ('<' :: (name ++ raw ++ '>' :: rest)) = .opening name raw false :: tokensFrom (.text []) rest ∧
    tokensFrom (.text []) ('<' :: (name ++ raw ++ ['/','>']) ++ rest) =
      .opening name raw true :: tokensFrom (.text []) rest := by
  obtain ⟨opened,closed⟩ := openingToken_append named attributes
  obtain ⟨c,cs,rfl⟩ := List.exists_cons_of_ne_nil named.filled
  obtain ⟨first,plain⟩ := List.forall_mem_cons.mp named.plain
  have starts : step .markup c = ([],.opening none [c]) := by
    have other (d : Char) (special : isNameChar d = false) : (c == d) = false :=
      beq_false_of_ne (ne_of_isNameChar first special)
    simp [step,openingStep,other '!' rfl,other '?' rfl,other '/' rfl,other '>' rfl,other '"' rfl,other '\x27' rfl]
  have enters (rest : List Char) : tokensFrom (.text []) ('<' :: c :: rest) = tokensFrom (.opening none [c]) rest := by
    change tokensFrom .markup (c :: rest) = _
    rw [tokensFrom_cons,starts,List.nil_append]
  have passes := (passes_name plain).append attributes.written.passes
  have slash : Passes ['/'] := passes_of_unquoted (List.forall_mem_singleton.mpr (by decide))
  have ends (read : List Char) : tokensFrom (.opening none read) ('>' :: rest) =
    openingToken read.reverse :: tokensFrom (.text []) rest := tokensFrom_cons _ _ _
  constructor
  · rw [List.cons_append,List.cons_append,enters,passes,ends]
    simpa using opened
  · have split : '<' :: (c :: cs ++ raw ++ ['/','>']) ++ rest = '<' :: c :: (cs ++ raw ++ ['/'] ++ '>' :: rest) := by simp
    rw [split,enters,passes.append slash,ends]
    simpa using closed

lemma tokensFrom_closing (named : IsName name) (blank : Gap cs) (rest : List Char) :
    tokensFrom (.text []) ('<' :: '/' :: (name ++ cs ++ ['>']) ++ rest) = .closing name :: tokensFrom (.text []) rest := by
  have stays : ∀ read c, ¬ c = '>' → step (.closing read) c = ([],.closing (c :: read)) := fun read c other =>
    if_neg (by simpa using other)
  have inside : ∀ c ∈ name ++ cs, ¬ c = '>' := by
    rintro c inside rfl
    obtain named' | blanks := List.mem_append.mp inside
    · exact absurd (named.plain _ named') (by decide)
    · exact absurd (blank _ blanks) (by decide)
  have back : name.reverse.dropWhile isGap = name.reverse := by
    cases spelled : name.reverse with
    | nil => rfl
    | cons d ds =>
      have last : d ∈ name := List.mem_reverse.mp (spelled ▸ List.mem_cons_self)
      exact List.dropWhile_cons_of_neg (by simp [not_isGap_of_isNameChar (named.plain d last)])
  have cut : Text.dropEndWhile isGap (name ++ cs) = name := by
    rw [Text.dropEndWhile,List.reverse_append,
      List.dropWhile_append_of_pos fun c inside => blank c (List.mem_reverse.mp inside),back,List.reverse_reverse]
  change tokensFrom (.closing []) (name ++ cs ++ ['>'] ++ rest) = _
  rw [List.append_assoc,tokensFrom_stays_of_mem stays _ _ inside,List.singleton_append,tokensFrom_cons]
  simp [step,cut]

end Tags

section Trees

/-- An open element with more nodes in it. -/
def Frame.add (f : Frame) (ns : List Node) : Frame := { f with done := ns.reverse ++ f.done }

lemma Frame.add_add (f : Frame) (ns ms : List Node) : (f.add ns).add ms = f.add (ns ++ ms) := by
  simp [Frame.add]

lemma Frame.close_add (name raw : List Char) (ns : List Node) :
    (Frame.add ⟨name,raw,[]⟩ ns).close = .element name raw ns := by
  simp [Frame.add,Frame.close]

/-- What is built when a complete element has gone to its place. -/
def resume (rest : List Token) : Node ⊕ List Frame → Option Node
  | .inl root => some root
  | .inr frames => build frames rest

lemma build_empty (name raw : List Char) (frames : List Frame) (rest : List Token) :
    build frames (.opening name raw true :: rest) = resume rest (settle (.element name raw []) frames) := by
  rw [build,if_pos rfl]
  cases settle (.element name raw []) frames <;> rfl

lemma build_closing (f : Frame) (frames : List Frame) (rest : List Token) :
    build (f :: frames) (.closing f.name :: rest) = resume rest (settle f.close frames) := by
  rw [build,if_pos (beq_self_eq_true f.name)]
  cases settle f.close frames <;> rfl

lemma build_textTokens (f : Frame) (frames : List Frame) (run : List Char) (ts : List Token) :
    build (f :: frames) (textTokens run.reverse ++ ts) = build (f.add (runNodes run) :: frames) ts := by
  cases run with
  | nil => rfl
  | cons c run =>
    have tokens : textTokens (c :: run).reverse = [.text (c :: run)] := by simp [textTokens]
    rw [tokens]
    rfl

lemma Run.build {run : List Char} (r : Run run) (f : Frame) (frames : List Frame) (rest : List Char) :
    Xml.build (f :: frames) (tokensFrom (.text []) (run ++ '<' :: rest)) =
      Xml.build (f.add (runNodes run) :: frames) (tokensFrom (.text []) ('<' :: rest)) := by
  rw [tokensFrom_run r.plain,build_textTokens]

lemma Contents.eq_nil_of_nil {cs : List Char} {ns : List Node} (h : Contents cs ns) (empty : cs = []) : ns = [] := by
  cases h with
  | last r => rw [empty]; rfl
  | aside r a more =>
    cases a <;> simp at empty
  | cdata r whole more => simp at empty
  | element r named attributes inside enclosed more =>
    cases enclosed <;> simp at empty

variable {name raw inner e : List Char} {as : List (List Char × List Char)} {children : List Node}

/-- An element is built from its text when its contents are. -/
theorem Encloses.build (enclosed : Encloses name raw inner e) (named : IsName name) (attributes : Attributes raw as)
    (inside : Contents inner children) (builds : ∀ f frames rest,
      Xml.build (f :: frames) (tokensFrom (.text []) (inner ++ '<' :: rest)) =
        Xml.build (f.add children :: frames) (tokensFrom (.text []) ('<' :: rest)))
    (frames : List Frame) (rest : List Char) : Xml.build frames (tokensFrom (.text []) (e ++ rest)) =
      resume (tokensFrom (.text []) rest) (settle (.element name raw children) frames) := by
  cases enclosed with
  | @pair gap blank =>
    have split : '<' :: (name ++ raw ++ '>' :: (inner ++ '<' :: '/' :: (name ++ gap ++ ['>']))) ++ rest =
        '<' :: (name ++ raw ++ '>' :: (inner ++ '<' :: '/' :: (name ++ gap ++ ['>']) ++ rest)) := by simp
    rw [split,(tokensFrom_tag named attributes _).1,Xml.build,if_neg Bool.false_ne_true,List.append_assoc,
      List.cons_append,builds,← List.cons_append,tokensFrom_closing named blank]
    have closes := build_closing (Frame.add ⟨name,raw,[]⟩ children) frames (tokensFrom (.text []) rest)
    rwa [Frame.close_add] at closes
  | single empty =>
    rw [(tokensFrom_tag named attributes rest).2,build_empty,inside.eq_nil_of_nil empty]

lemma Encloses.exists_cons (enclosed : Encloses name raw inner e) : ∃ cs, e = '<' :: cs := by
  cases enclosed <;> exact ⟨_,rfl⟩

/-- All that stands in an element goes into its frame. -/
theorem Contents.build {cs : List Char} {ns : List Node} (h : Contents cs ns) (f : Frame) (frames : List Frame)
    (rest : List Char) : Xml.build (f :: frames) (tokensFrom (.text []) (cs ++ '<' :: rest)) =
      Xml.build (f.add ns :: frames) (tokensFrom (.text []) ('<' :: rest)) := by
  induction h generalizing f frames rest with
  | last r => exact r.build f frames rest
  | @aside run mark cs ns r a more ih =>
    obtain ⟨c,rfl⟩ := a.exists_cons
    rw [List.append_assoc,List.append_assoc,List.cons_append,r.build,← List.cons_append,a.tokensFrom,ih,Frame.add_add]
  | @cdata run content cs ns r whole more ih =>
    rw [List.append_assoc,List.append_assoc,List.cons_append,r.build,← List.cons_append,tokensFrom_cdata whole,
      Xml.build]
    refine (ih (Frame.add _ [.cdata content]) frames rest).trans ?_
    rw [Frame.add_add,Frame.add_add,List.singleton_append]
  | @element run name raw inner e cs as children ns r named attributes inside enclosed more ihInside ih =>
    -- the element is built in a frame of its own, and is one node of this one when that closes
    obtain ⟨c,spelled⟩ := enclosed.exists_cons
    rw [List.append_assoc,List.append_assoc,spelled,List.cons_append,r.build,← List.cons_append,← spelled,
      enclosed.build named attributes inside ihInside]
    refine (ih (Frame.add _ [.element name raw children]) frames rest).trans ?_
    rw [Frame.add_add,Frame.add_add,List.singleton_append]

/-- A document is read as its root element. -/
theorem Document.root? {cs : List Char} {node : Node} (h : Document cs node) : Xml.root? cs = some node := by
  obtain @⟨front,name,raw,inner,e,after,as,children,prologue,named,attributes,inside,enclosed⟩ := h
  obtain ⟨c,spelled⟩ := enclosed.exists_cons
  rw [Xml.root?,List.append_assoc,spelled,List.cons_append,prologue.tokens_eq,prologue.build,← List.cons_append,
    ← spelled,enclosed.build named attributes inside inside.build]
  rfl

lemma areReadable_append (ns ms : List Node) : areReadable (ns ++ ms) = (areReadable ns && areReadable ms) := by
  induction ns with
  | nil => rfl
  | cons n ns ih => rw [List.cons_append,areReadable,ih,areReadable,Bool.and_assoc]

lemma Run.areReadable {run : List Char} (r : Run run) : Xml.areReadable (runNodes run) = true := by
  obtain ⟨cs,spelling⟩ := r.spelled
  rw [runNodes]
  split
  · rfl
  · rw [Xml.areReadable,Node.isReadable,spelling.isReadable]
    rfl

lemma Contents.areReadable {cs : List Char} {ns : List Node} (h : Contents cs ns) : Xml.areReadable ns = true := by
  induction h with
  | last r => exact r.areReadable
  | aside r a more ih => rw [areReadable_append,r.areReadable,ih]; rfl
  | cdata r whole more ih => rw [areReadable_append,r.areReadable,Xml.areReadable,ih]; rfl
  | element r named attributes inside enclosed more ihInside ih =>
    rw [areReadable_append,r.areReadable,Xml.areReadable,Node.isReadable,ihInside,ih]
    rfl

lemma Document.areReadable {cs name raw : List Char} {children : List Node}
    (h : Document cs (.element name raw children)) : Xml.areReadable children = true := by
  cases h with
  | mk prologue named attributes inside enclosed => exact inside.areReadable

end Trees

end Recon.Xml
