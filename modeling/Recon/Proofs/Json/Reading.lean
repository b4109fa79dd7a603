import Recon.Proofs.Json.Words

/-! A printed tree is read back. Printing puts down one run of words for a tree, with blanks between them as the
layout says; the reader gathers that run, whatever it has open, and goes on as if the tree had been one word. -/
namespace Recon.Json

/-- Only blanks set the parts of a list or table apart. -/
structure Layout.Blank (layout : Layout) : Prop where
  lineBreak : ∀ depth, ∀ c ∈ layout.lineBreak depth, isGap c = true
  afterColon : ∀ c ∈ layout.afterColon, isGap c = true

lemma oneLine_blank : oneLine.Blank where
  lineBreak _ _ h := absurd h List.not_mem_nil
  afterColon _ h := absurd h List.not_mem_nil

lemma indented_blank : indented.Blank where
  lineBreak depth c h := by
    obtain rfl | h := List.mem_cons.mp h
    · decide
    · rw [List.eq_of_mem_replicate h]
      decide
  afterColon c h := by
    rw [List.mem_singleton.mp h]
    decide

mutual

/-- The tree has a written form of its own: whole numbers fit 64 bits, and the text of any other number is read
back as that number. -/
def Legible : Value → Prop
  | .null | .bool _ | .text _ => True
  | .int i => Exact i
  | .float x => x.isFinite = true ∧ number? x.text = some (.float x,[])
  | .list vs => AllLegible vs
  | .table es => EntriesLegible es
  | .illegible | .keyless _ | .broken => False

def AllLegible : List Value → Prop
  | [] => True
  | v :: vs => Legible v ∧ AllLegible vs

def EntriesLegible : List (String × Value) → Prop
  | [] => True
  | (_,v) :: es => Legible v ∧ EntriesLegible es

end

mutual

/-- The words of a tree. -/
def spelled : Value → List Token
  | .null => [.scalar .null]
  | .bool b => [.scalar (.bool b)]
  | .int i => [.scalar (.int i)]
  | .float x => [.scalar (.float x)]
  | .text s => [.text (some s)]
  | .list [] => [.openList,.closeList]
  | .list (v :: vs) => .openList :: (spelled v ++ (spelledItems vs ++ [.closeList]))
  | .table [] => [.openTable,.closeTable]
  | .table ((key,v) :: es) =>
    .openTable :: .text (some key) :: .colon :: (spelled v ++ (spelledEntries es ++ [.closeTable]))
  | .illegible | .keyless _ | .broken => [.bad]

def spelledItems : List Value → List Token
  | [] => []
  | v :: vs => .comma :: (spelled v ++ spelledItems vs)

def spelledEntries : List (String × Value) → List Token
  | [] => []
  | (key,v) :: es => .comma :: .text (some key) :: .colon :: (spelled v ++ spelledEntries es)

end

section Cutting

lemma tokensFrom_mark {c : Char} {t : Token} (h : start c = ([t],.gap)) (cs : List Char) :
    tokensFrom .gap (c :: cs) = t :: tokensFrom .gap cs := by
  rw [tokensFrom_gap_cons,h]
  rfl

/-- A name is one word. -/
theorem tokens_word {c : Char} {cs rest : List Char} {v : Value} (opens : start c = ([],.word [c]))
    (name : cs.all Char.isAlphanum = true) (means : wordTokens (c :: cs) = [.scalar v]) (ends : Ends rest) :
    tokensFrom .gap (c :: cs ++ rest) = .scalar v :: tokensFrom .gap rest := by
  rw [List.cons_append,tokensFrom_gap_cons,opens,tokensFrom_word _ (List.all_eq_true.mp name) ends]
  exact congrArg (· ++ _) means

variable {layout : Layout}

lemma ends_printItems (layout : Layout) (depth : Nat) (vs : List Value) {rest : List Char} (ends : Ends rest) :
    Ends (printItems layout depth vs ++ rest) := by
  cases vs with
  | nil => rwa [printItems]
  | cons v vs =>
    rw [printItems]
    exact ends_cons (c := ',') (by decide) (by decide)

lemma ends_printEntries (layout : Layout) (depth : Nat) (es : List (String × Value)) {rest : List Char}
    (ends : Ends rest) : Ends (printEntries layout depth es ++ rest) := by
  cases es with
  | nil => rwa [printEntries]
  | cons e es =>
    rw [printEntries]
    exact ends_cons (c := ',') (by decide) (by decide)

/-- A key, the colon and the blanks after it. -/
theorem tokens_printEntry (blank : layout.Blank) (depth : Nat) (key : String) (v : Value) (rest : List Char) :
    tokensFrom .gap (printEntry layout depth key v ++ rest) =
      .text (some key) :: .colon :: tokensFrom .gap (print layout depth v ++ rest) := by
  have apart : printEntry layout depth key v ++ rest =
      quoted key.toList ++ ':' :: (layout.afterColon ++ (print layout depth v ++ rest)) := by
    simp [printEntry]
  rw [apart,tokens_quoted,tokensFrom_mark rfl,tokensFrom_gaps blank.afterColon]

mutual

/-- A printed tree is cut into its words, whatever follows it. -/
theorem tokens_print (blank : layout.Blank) (depth : Nat) (v : Value) (legible : Legible v) {rest : List Char}
    (ends : Ends rest) : tokensFrom .gap (print layout depth v ++ rest) = spelled v ++ tokensFrom .gap rest := by
  match v with
  | .null =>
    rw [print,spelled]
    exact tokens_word (c := 'n') rfl rfl rfl ends
  | .bool true =>
    rw [print,spelled]
    exact tokens_word (c := 't') rfl rfl rfl ends
  | .bool false =>
    rw [print,spelled]
    exact tokens_word (c := 'f') rfl rfl rfl ends
  | .int i =>
    rw [Legible] at legible
    rw [print,spelled]
    exact tokens_number (number?_intText legible) ends
  | .float x =>
    rw [Legible] at legible
    obtain ⟨finite,read⟩ := legible
    rw [print,spelled,if_pos finite]
    exact tokens_number read ends
  | .text s =>
    rw [print,spelled]
    exact tokens_quoted s rest
  | .list [] =>
    rw [print,spelled]
    exact (tokensFrom_mark rfl _).trans (congrArg _ (tokensFrom_mark rfl _))
  | .list (v :: vs) =>
    rw [Legible,AllLegible] at legible
    -- an item ends where a comma or the closing bracket stands, after blanks
    have closing : Ends (layout.lineBreak depth ++ ']' :: rest) :=
      ends_append (blank.lineBreak depth) (ends_cons (by decide) (by decide))
    have later := ends_printItems layout (depth + 1) vs closing
    simp only [print,spelled,List.append_assoc,List.cons_append,List.nil_append]
    rw [tokensFrom_mark rfl,tokensFrom_gaps (blank.lineBreak _),tokens_print blank _ v legible.1 later,
      tokens_printItems blank _ vs legible.2 closing,tokensFrom_gaps (blank.lineBreak _),tokensFrom_mark rfl]
  | .table [] =>
    rw [print,spelled]
    exact (tokensFrom_mark rfl _).trans (congrArg _ (tokensFrom_mark rfl _))
  | .table ((key,v) :: es) =>
    rw [Legible,EntriesLegible] at legible
    have closing : Ends (layout.lineBreak depth ++ '\x7d' :: rest) :=
      ends_append (blank.lineBreak depth) (ends_cons (by decide) (by decide))
    have later := ends_printEntries layout (depth + 1) es closing
    simp only [print,spelled,List.append_assoc,List.cons_append,List.nil_append]
    rw [tokensFrom_mark rfl,tokensFrom_gaps (blank.lineBreak _),tokens_printEntry blank,
      tokens_print blank _ v legible.1 later,tokens_printEntries blank _ es legible.2 closing,
      tokensFrom_gaps (blank.lineBreak _),tokensFrom_mark rfl]

lemma tokens_printItems (blank : layout.Blank) (depth : Nat) (vs : List Value) (legible : AllLegible vs)
    {rest : List Char} (ends : Ends rest) :
    tokensFrom .gap (printItems layout depth vs ++ rest) = spelledItems vs ++ tokensFrom .gap rest := by
  match vs with
  | [] =>
    rw [printItems,spelledItems]
    rfl
  | v :: vs =>
    rw [AllLegible] at legible
    have later := ends_printItems layout depth vs ends
    simp only [printItems,spelledItems,List.append_assoc,List.cons_append]
    rw [tokensFrom_mark rfl,tokensFrom_gaps (blank.lineBreak _),tokens_print blank _ v legible.1 later,
      tokens_printItems blank _ vs legible.2 ends]

lemma tokens_printEntries (blank : layout.Blank) (depth : Nat) (es : List (String × Value))
    (legible : EntriesLegible es) {rest : List Char} (ends : Ends rest) :
    tokensFrom .gap (printEntries layout depth es ++ rest) = spelledEntries es ++ tokensFrom .gap rest := by
  match es with
  | [] =>
    rw [printEntries,spelledEntries]
    rfl
  | (key,v) :: es =>
    rw [EntriesLegible] at legible
    have later := ends_printEntries layout depth es ends
    simp only [printEntries,spelledEntries,List.append_assoc,List.cons_append]
    rw [tokensFrom_mark rfl,tokensFrom_gaps (blank.lineBreak _),tokens_printEntry blank,
      tokens_print blank _ v legible.1 later,tokens_printEntries blank _ es legible.2 ends]

end

end Cutting

section Gathering

/-- Reading goes on once `v` is complete. -/
def settled (v : Value) : List Frame → List Token → Document
  | [],rest => ⟨v,!rest.isEmpty⟩
  | frame :: frames,rest => build (frame.add v :: frames) .separator rest

lemma build_of_settle {frames frames' : List Frame} {expect : Expect} {token : Token} {v : Value}
    (h : next frames expect token = settle v frames') (rest : List Token) :
    build frames expect (token :: rest) = settled v frames' rest := by
  rw [build,h]
  cases frames' with
  | nil => rfl
  | cons frame frames' => rfl

lemma build_of_go {frames frames' : List Frame} {expect expect' : Expect} {token : Token}
    (h : next frames expect token = .go frames' expect') (rest : List Token) :
    build frames expect (token :: rest) = build frames' expect' rest := by
  rw [build,h]

/-- Where a tree may begin. -/
def OpensValue (expect : Expect) : Prop := expect = .value ∨ expect = .valueOrClose

lemma build_openList (frames : List Frame) {expect : Expect} (place : OpensValue expect) (rest : List Token) :
    build frames expect (.openList :: rest) = build (.list [] :: frames) .valueOrClose rest := by
  obtain rfl | rfl := place <;> exact build_of_go rfl rest

lemma build_openTable (frames : List Frame) {expect : Expect} (place : OpensValue expect) (rest : List Token) :
    build frames expect (.openTable :: rest) = build (.table [] :: frames) .keyOrClose rest := by
  obtain rfl | rfl := place <;> exact build_of_go rfl rest

mutual

/-- The words of a tree are gathered into the tree where a value may stand. -/
theorem build_spelled (frames : List Frame) {expect : Expect} (place : OpensValue expect)
    (v : Value) (legible : Legible v) (rest : List Token) :
    build frames expect (spelled v ++ rest) = settled v frames rest := by
  match v with
  | .null | .bool _ | .int _ | .float _ | .text _ =>
    rw [spelled]
    obtain rfl | rfl := place <;> exact build_of_settle rfl rest
  | .list [] =>
    rw [spelled,List.cons_append,build_openList frames place]
    exact build_of_settle rfl rest
  | .list (v :: vs) =>
    rw [Legible,AllLegible] at legible
    simp only [spelled,List.append_assoc,List.cons_append,List.nil_append]
    rw [build_openList frames place,build_spelled _ (.inr rfl) v legible.1]
    exact build_spelledItems frames [v] vs legible.2 rest
  | .table [] =>
    rw [spelled,List.cons_append,build_openTable frames place]
    exact build_of_settle rfl rest
  | .table ((key,v) :: es) =>
    rw [Legible,EntriesLegible] at legible
    simp only [spelled,List.append_assoc,List.cons_append,List.nil_append]
    rw [build_openTable frames place,build_of_go rfl,build_of_go rfl,
      build_spelled _ (.inl rfl) v legible.1]
    exact build_spelledEntries frames [(key,v)] es legible.2 rest

/-- Further items go into the open list, which then is complete. -/
theorem build_spelledItems (frames : List Frame) (done vs : List Value) (legible : AllLegible vs)
    (rest : List Token) :
    build (.list done :: frames) .separator (spelledItems vs ++ .closeList :: rest) =
      settled (.list (done.reverse ++ vs)) frames rest := by
  match vs with
  | [] =>
    rw [spelledItems,List.append_nil]
    exact build_of_settle rfl rest
  | v :: vs =>
    rw [AllLegible] at legible
    have item := build_spelledItems frames (v :: done) vs legible.2 rest
    rw [List.reverse_cons,List.append_assoc] at item
    simp only [spelledItems,List.append_assoc,List.cons_append]
    rw [build_of_go rfl,build_spelled _ (.inl rfl) v legible.1]
    exact item

lemma build_spelledEntries (frames : List Frame) (done es : List (String × Value)) (legible : EntriesLegible es)
    (rest : List Token) :
    build (.table done :: frames) .separator (spelledEntries es ++ .closeTable :: rest) =
      settled (.table (done.reverse ++ es)) frames rest := by
  match es with
  | [] =>
    rw [spelledEntries,List.append_nil]
    exact build_of_settle rfl rest
  | (key,v) :: es =>
    rw [EntriesLegible] at legible
    have entry := build_spelledEntries frames ((key,v) :: done) es legible.2 rest
    rw [List.reverse_cons,List.append_assoc] at entry
    simp only [spelledEntries,List.append_assoc,List.cons_append]
    rw [build_of_go rfl,build_of_go rfl,build_of_go rfl,build_spelled _ (.inl rfl) v legible.1]
    exact entry

end

/-- A legible tree is read back from its printed form, in whatever layout. -/
theorem read_print {layout : Layout} (blank : layout.Blank) {v : Value} (legible : Legible v) :
    read (print layout 0 v) = ⟨v,false⟩ := by
  have words : tokens (print layout 0 v) = spelled v := by
    have h := tokens_print blank 0 v legible ends_nil
    rwa [List.append_nil,tokensFrom,List.append_nil] at h
  have built := build_spelled [] (.inl rfl) v legible []
  rw [List.append_nil] at built
  rw [read,words]
  exact built

end Gathering

end Recon.Json
