import Recon.Codec.Result
import Recon.Json.Printer
import Recon.Proofs.Json.Reading

/-! What the printed form of a result tells for certain. Whatever its payload, the text gives away the status, the error
and whether there is data: up to the data it consists of texts, and texts are words of their own. -/
namespace Recon

namespace Json

lemma printEntries_append (layout : Layout) (depth : Nat) (es es' : List (String × Value)) :
    printEntries layout depth (es ++ es') = printEntries layout depth es ++ printEntries layout depth es' := by
  induction es with
  | nil => rw [printEntries,List.nil_append,List.nil_append]
  | cons e es ih =>
    obtain ⟨key,v⟩ := e
    simp only [List.cons_append,printEntries,ih,List.append_assoc]

variable {layout : Layout}

/-- What closes a table. -/
def closing (layout : Layout) : List Char := layout.lineBreak 0 ++ ['\x7d']

lemma tokens_closing (blank : layout.Blank) : tokensFrom .gap (closing layout) = [.closeTable] := by
  rw [closing,tokensFrom_gaps (blank.lineBreak _),tokensFrom_mark rfl]
  rfl

/-- The words of a table up to entries of any kind. -/
theorem tokens_lead (blank : layout.Blank) (key : String) (v : Value) {es : List (String × Value)}
    (legible : Legible v ∧ EntriesLegible es) (rest : List (String × Value)) :
    tokens (print layout 0 (.table ((key,v) :: es ++ rest))) = .openTable :: .text (some key) :: .colon ::
      (spelled v ++ (spelledEntries es ++ tokensFrom .gap (printEntries layout 1 rest ++ closing layout))) := by
  have ends : Ends (printEntries layout 1 rest ++ closing layout) :=
    ends_printEntries layout 1 rest (ends_append (blank.lineBreak _) (ends_cons (by decide) (by decide)))
  have later := ends_printEntries layout 1 es ends
  unfold tokens
  rw [List.cons_append,print,printEntries_append]
  simp only [List.append_assoc,List.cons_append]
  rw [tokensFrom_mark rfl,tokensFrom_gaps (blank.lineBreak _),tokens_printEntry blank]
  change _ :: _ :: _ :: tokensFrom .gap (print layout (0 + 1) v ++
    (printEntries layout 1 es ++ (printEntries layout 1 rest ++ closing layout))) = _
  rw [tokens_print blank _ v legible.1 later,tokens_printEntries blank _ es legible.2 ends]

end Json
namespace ScanResult

open Json

/-- The entries after the first and before the error and the data. -/
def middle (x : ScanResult) : List (String × Value) :=
  [("category",x.category.encode),("target",.text x.target),("start_time",x.startTime.encode),
    ("end_time",x.endTime.encode),("duration",x.duration.encode),("status",x.status.encode)]

/-- The error and the data. -/
def outcomeEntries (x : ScanResult) : List (String × Value) :=
  Value.present "error" (x.error.map .text) ++ Value.present "data" (x.payload.map Payload.encode)

lemma encode_eq (x : ScanResult) :
    x.encode = .table (("scanner_name",.text x.scanner) :: x.middle ++ x.outcomeEntries) := by
  simp only [encode,middle,outcomeEntries,List.cons_append,List.nil_append]

lemma legible_middle (x : ScanResult) : EntriesLegible x.middle := by
  simp only [middle,EntriesLegible,Category.encode,Moment.encode,Duration.encode,Status.encode,Legible,and_true]

variable {layout : Layout}

/-- The words after the data. -/
def dataWords (layout : Layout) (x : ScanResult) : List Token :=
  tokensFrom .gap (printEntries layout 1 (Value.present "data" (x.payload.map Payload.encode)) ++ closing layout)

/-- The words of a result: texts up to the error, then the data if there is any. -/
theorem tokens_encode (blank : layout.Blank) (x : ScanResult) :
    tokens (print layout 0 x.encode) = [.openTable,.text (some "scanner_name"),.colon,.text (some x.scanner)] ++
      (spelledEntries x.middle ++
        (spelledEntries (Value.present "error" (x.error.map .text)) ++ x.dataWords layout)) := by
  have legible : EntriesLegible (Value.present "error" (x.error.map .text)) := by
    cases x.error <;> simp [Value.present,EntriesLegible,Legible]
  have ends : Ends (printEntries layout 1 (Value.present "data" (x.payload.map Payload.encode)) ++ closing layout) :=
    ends_printEntries layout 1 _ (ends_append (blank.lineBreak _) (ends_cons (by decide) (by decide)))
  rw [encode_eq,tokens_lead blank _ _ ⟨by simp [Legible],x.legible_middle⟩,outcomeEntries,printEntries_append,
    List.append_assoc,tokens_printEntries blank 1 _ legible ends,spelled]
  rfl

lemma dataWords_of_payload (blank : layout.Blank) {x : ScanResult} {payload : Payload}
    (h : x.payload = some payload) : ∃ rest, x.dataWords layout = .comma :: .text (some "data") :: rest := by
  simp only [dataWords,h,Option.map_some,Value.present,printEntries,List.append_assoc,List.cons_append]
  rw [tokensFrom_mark rfl,tokensFrom_gaps (blank.lineBreak _),tokens_printEntry blank]
  exact ⟨_,rfl⟩

lemma dataWords_of_no_payload (blank : layout.Blank) {x : ScanResult} (h : x.payload = none) :
    x.dataWords layout = [.closeTable] := by
  simp only [dataWords,h,Option.map_none,Value.present,printEntries,List.nil_append]
  exact tokens_closing blank

lemma payload_of_dataWords (blank : layout.Blank) {x y : ScanResult}
    (same : x.dataWords layout = y.dataWords layout) : x.payload = none ↔ y.payload = none := by
  cases hx : x.payload with
  | none =>
    cases hy : y.payload with
    | none => exact iff_of_true rfl rfl
    | some payload =>
      obtain ⟨rest,words⟩ := dataWords_of_payload blank hy
      rw [dataWords_of_no_payload blank hx,words] at same
      cases same
  | some payload =>
    cases hy : y.payload with
    | none =>
      obtain ⟨rest,words⟩ := dataWords_of_payload blank hx
      rw [dataWords_of_no_payload blank hy,words] at same
      cases same
    | some payload' => exact iff_of_false nofun nofun

/-- An error is told from data and from nothing. -/
theorem dataWords_ne_error (blank : layout.Blank) (x : ScanResult) (rest : List Token) :
    x.dataWords layout ≠ .comma :: .text (some "error") :: rest := by
  cases h : x.payload with
  | none =>
    rw [dataWords_of_no_payload blank h]
    nofun
  | some payload =>
    obtain ⟨rest,words⟩ := dataWords_of_payload blank h
    rw [words]
    simp

/-- The error is told apart from what comes after it. -/
theorem error_of_words (blank : layout.Blank) {x y : ScanResult}
    (same : spelledEntries (Value.present "error" (x.error.map .text)) ++ x.dataWords layout =
      spelledEntries (Value.present "error" (y.error.map .text)) ++ y.dataWords layout) :
    x.error = y.error ∧ x.dataWords layout = y.dataWords layout := by
  cases hx : x.error with
  | none =>
    cases hy : y.error with
    | none =>
      simp only [hx,hy,Option.map_none,Value.present,spelledEntries,List.nil_append] at same
      exact ⟨rfl,same⟩
    | some error =>
      simp only [hx,hy,Option.map_none,Option.map_some,Value.present,spelledEntries,spelled,List.nil_append,
        List.cons_append] at same
      exact absurd same (dataWords_ne_error blank x _)
  | some error =>
    cases hy : y.error with
    | none =>
      simp only [hx,hy,Option.map_none,Option.map_some,Value.present,spelledEntries,spelled,List.nil_append,
        List.cons_append] at same
      exact absurd same.symm (dataWords_ne_error blank y _)
    | some error' =>
      simp only [hx,hy,Option.map_some,Value.present,spelledEntries,spelled,List.nil_append,List.cons_append,
        List.cons.injEq,Token.text.injEq,Option.some.injEq,true_and] at same
      obtain ⟨rfl,same⟩ := same
      exact ⟨rfl,same⟩

/-- Results that are printed alike agree in their status, in their error and in whether there is data. -/
theorem agree_of_print (blank : layout.Blank) {x y : ScanResult}
    (same : print layout 0 x.encode = print layout 0 y.encode) :
    x.status = y.status ∧ x.error = y.error ∧ (x.payload = none ↔ y.payload = none) := by
  have words := congrArg tokens same
  rw [tokens_encode blank,tokens_encode blank] at words
  simp only [middle,spelledEntries,spelled,Category.encode,Moment.encode,Duration.encode,Status.encode,List.cons_append,
    List.nil_append,List.cons.injEq,Token.text.injEq,Option.some.injEq,true_and] at words
  obtain ⟨_,_,_,_,_,_,status,rest⟩ := words
  obtain ⟨error,data⟩ := error_of_words blank rest
  have named := congrArg Status.ofName? status
  rw [Status.ofName?_name,Status.ofName?_name,Option.some.injEq] at named
  exact ⟨named,error,payload_of_dataWords blank data⟩

end ScanResult
end Recon
