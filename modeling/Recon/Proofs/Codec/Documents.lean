import Recon.Proofs.Codec.RoundTrip

/-! The model as documents. Everything that is written is legible, up to the scores: all other numbers are whole and
fit 64 bits. So a document in whatever layout gives back what it was written from. -/
namespace Recon

open Json (Legible AllLegible EntriesLegible)

namespace Json

variable {α : Type}

lemma legible_text (s : String) : Legible (.text s) := by
  rw [Legible]
  trivial

lemma legible_bool (b : Bool) : Legible (.bool b) := by
  rw [Legible]
  trivial

lemma legible_ofNat {n : Nat} (h : n < 18446744073709551616) : Legible (.ofNat n) := by
  rw [Value.ofNat,Legible]
  exact ⟨by omega,by omega⟩

lemma legible_list_map {encode : α → Value} {as : List α} (h : ∀ a ∈ as, Legible (encode a)) :
    Legible (.list (as.map encode)) := by
  rw [Legible]
  induction as with
  | nil =>
    rw [List.map_nil,AllLegible]
    trivial
  | cons a as ih =>
    rw [List.forall_mem_cons] at h
    rw [List.map_cons,AllLegible]
    exact ⟨h.1,ih h.2⟩

lemma legible_texts (items : List String) : Legible (.texts items) :=
  legible_list_map fun s _ => legible_text s

lemma entriesLegible_append {es fs : List (String × Value)} (front : EntriesLegible es)
    (back : EntriesLegible fs) : EntriesLegible (es ++ fs) := by
  induction es with
  | nil => exact back
  | cons e es ih =>
    rw [EntriesLegible] at front
    rw [List.cons_append,EntriesLegible]
    exact ⟨front.1,ih front.2⟩

lemma entriesLegible_present (name : String) {o : Option Value} (set : ∀ v ∈ o, Legible v) :
    EntriesLegible (Value.present name o) := by
  cases o with
  | none =>
    rw [Value.present,EntriesLegible]
    trivial
  | some v =>
    rw [Value.present,EntriesLegible,EntriesLegible]
    exact ⟨set v rfl,trivial⟩

lemma entriesLegible_present_map (name : String) {encode : α → Value} {o : Option α}
    (set : ∀ a ∈ o, Legible (encode a)) : EntriesLegible (Value.present name (o.map encode)) := by
  apply entriesLegible_present
  intro v hv
  obtain ⟨a,ha,rfl⟩ := Option.map_eq_some_iff.mp hv
  exact set a ha

lemma legible_table {es : List (String × Value)} (h : EntriesLegible es) : Legible (.table es) := by
  rwa [Legible]

end Json

section Payload

lemma Subdomain.legible (s : Subdomain) : Legible s.encode := by
  simp [encode,Legible,EntriesLegible,Json.legible_texts]

lemma Service.legible (s : Service) : Legible s.encode := by
  simp [encode,Legible,EntriesLegible]

lemma Port.legible (p : Port) : Legible p.encode := by
  have port : Legible (.ofNat p.port.toNat) := Json.legible_ofNat (p.port.toNat_lt.trans (by decide))
  refine Json.legible_table (Json.entriesLegible_append ?_ (Json.entriesLegible_present_map _ fun s _ => s.legible))
  simp [EntriesLegible,Json.legible_text,port]

lemma Technology.legible (t : Technology) : Legible t.encode := by
  simp [encode,Legible,EntriesLegible]

lemma WebTech.legible (w : WebTech) : Legible w.encode := by
  have status : Legible (.ofNat w.statusCode.toNat) := Json.legible_ofNat (w.statusCode.toNat_lt.trans (by decide))
  have technologies : Legible (.list (w.technologies.map Technology.encode)) :=
    Json.legible_list_map fun t _ => t.legible
  refine Json.legible_table ?_
  simp [EntriesLegible,Json.legible_text,status,technologies]

lemma WebPath.legible (w : WebPath) : Legible w.encode := by
  have status : Legible (.ofNat w.statusCode.toNat) := Json.legible_ofNat (w.statusCode.toNat_lt.trans (by decide))
  have length : Legible (.ofNat w.length.toNat) := Json.legible_ofNat w.length.toNat_lt
  refine Json.legible_table ?_
  simp [EntriesLegible,Json.legible_text,status,length]

lemma Vulnerability.legible {v : Vulnerability} (score : Legible (.float v.cvss)) : Legible v.encode := by
  refine Json.legible_table ?_
  simp [EntriesLegible,Json.legible_text,score]

lemma Payload.legible_listed {α : Type} (name : String) {encode : α → Value} {found : List α}
    (h : ∀ a ∈ found, Legible (encode a)) : Legible (listed name (found.map encode)) := by
  refine Json.legible_table ?_
  simp [EntriesLegible,Json.legible_list_map h]

lemma Payload.legible {p : Payload} (scores : ∀ x ∈ p.scores, Legible (.float x)) : Legible p.encode := by
  have content : Legible p.content := by
    cases p with
    | subdomains found => exact legible_listed _ fun s _ => s.legible
    | ports found => exact legible_listed _ fun p _ => p.legible
    | webTech found => exact found.legible
    | webPaths found => exact legible_listed _ fun w _ => w.legible
    | vulnerabilities found =>
      exact legible_listed _ fun v hv => Vulnerability.legible (scores v.cvss (List.mem_map_of_mem hv))
  refine Json.legible_table ?_
  simp [EntriesLegible,content]

end Payload

section Record

lemma ScanResult.legible {r : ScanResult} (scores : ∀ x ∈ r.scores, Legible (.float x)) : Legible r.encode := by
  have payload : ∀ p ∈ r.payload, Legible p.encode := by
    intro p hp
    apply Payload.legible
    intro x hx
    apply scores
    rw [ScanResult.scores,hp]
    exact hx
  refine Json.legible_table (Json.entriesLegible_append (Json.entriesLegible_append ?_
    (Json.entriesLegible_present_map _ fun s _ => Json.legible_text s))
    (Json.entriesLegible_present_map _ payload))
  simp [EntriesLegible,Json.legible_text,Category.encode,Moment.encode,Duration.encode,Status.encode]

lemma Dict.legible (d : Dict String) : Legible d.encode := by
  rw [Dict.encode,Legible]
  induction d.entries with
  | nil =>
    rw [List.map_nil,EntriesLegible]
    trivial
  | cons e es ih =>
    rw [List.map_cons,EntriesLegible]
    exact ⟨Json.legible_text e.2,ih⟩

lemma ScanConfig.legible {c : ScanConfig} (scores : ∀ x ∈ c.scores, Legible (.float x)) : Legible c.encode := by
  have project : Legible (.ofNat c.projectId.toNat) := Json.legible_ofNat c.projectId.toNat_lt
  have parents : Legible (.list (c.parents.map ScanResult.encode)) :=
    Json.legible_list_map fun r hr =>
      ScanResult.legible fun x hx => scores x (List.mem_flatMap.mpr ⟨r,hr,hx⟩)
  refine Json.legible_table (Json.entriesLegible_append ?_ (Json.entriesLegible_present _ ?_))
  · simp [EntriesLegible,Json.legible_text,Duration.encode,project,c.options.legible]
  · intro v hv
    split at hv <;> cases hv
    exact parents

lemma Stage.legible (s : Stage) : Legible s.encode := by
  refine Json.legible_table ?_
  simp [EntriesLegible,Legible,Json.legible_texts,s.options.legible]

lemma Pipeline.legible (p : Pipeline) : Legible p.encode := by
  have project : Legible (.ofNat p.projectId.toNat) := Json.legible_ofNat p.projectId.toNat_lt
  have stages : Legible (.list (p.stages.map Stage.encode)) := Json.legible_list_map fun s _ => s.legible
  refine Json.legible_table (Json.entriesLegible_append ?_
    (Json.entriesLegible_present_map _ fun d _ => Json.legible_text _))
  simp [EntriesLegible,Json.legible_text,Json.legible_bool,project,stages]

end Record

lemma ScanConfig.Restorable.finite {c : ScanConfig} (h : c.Restorable) : ∀ x ∈ c.scores, x.isFinite = true := by
  intro x hx
  obtain ⟨r,hr,found⟩ := List.mem_flatMap.mp hx
  exact (h.parents r hr).scores x found

/-- A document gives back what its tree stands for. -/
theorem Decode.document_print {α : Type} {d : Value → Decoded α} {v : Value} {a : α} {layout : Json.Layout}
    (blank : layout.Blank) (legible : Legible v) (read : d v = .ok a) :
    Decode.document d (Json.read (Json.print layout 0 v)) = .ok a := by
  rw [Json.read_print blank legible,Decode.document]
  simp only [read]
  rfl

/-- Configurations and pipelines are read back from their trees, and from their documents in any layout. Whether the
parts of a result fit together does not matter. -/
theorem restored_from_document :
    (∀ c : ScanConfig, c.Restorable → ScanConfig.decode .json c.encode = .ok c ∧
      ∀ layout : Json.Layout, layout.Blank → (∀ x ∈ c.scores, Json.number? x.text = some (.float x,[])) →
        Decode.document (ScanConfig.decode .json) (Json.read (Json.print layout 0 c.encode)) = .ok c) ∧
    ∀ p : Pipeline, p.Restorable → Pipeline.decode .json p.encode = .ok p ∧
      ∀ layout : Json.Layout, layout.Blank →
        Decode.document (Pipeline.decode .json) (Json.read (Json.print layout 0 p.encode)) = .ok p := by
  refine ⟨fun c h => ?_,fun p h => ?_⟩
  · have tree := ScanConfig.decode_encode .json h
    refine ⟨tree,fun layout blank numbers => ?_⟩
    have legible : Legible c.encode := by
      apply ScanConfig.legible
      intro x hx
      rw [Legible]
      exact ⟨h.finite x hx,numbers x hx⟩
    exact Decode.document_print blank legible tree
  · have tree := Pipeline.decode_encode .json h
    exact ⟨tree,fun layout blank => Decode.document_print blank p.legible tree⟩

namespace Samples

/-- Half past seven on a leap day. -/
def morning : Moment := ⟨2024,2,29,7,30,0,0⟩

/-- Half through the leap second at the end of 2016. -/
def leapSecond : Moment := ⟨2016,12,31,23,59,59,1500000000⟩

def brief : Duration := ⟨1500000000,by decide⟩

def severe : Binary64 := ⟨0x401E000000000000⟩

/-- A result of any category, status, error and payload. -/
def result (category : Category) (status : Status) (error : Option String) (payload : Option Payload) :
    ScanResult where
  scanner := "probe \"2\""
  category := category
  target := "example.org"
  startTime := morning
  endTime := leapSecond
  duration := brief
  status := status
  error := error
  payload := payload

def service : Service := { name := "http",banner := "line\nbreak" }

def finding : Vulnerability where
  target := "example.org"
  title := "open"
  severity := "high"
  cvss := severe

def surveyed : ScanConfig where
  projectId := 7
  target := "example.org"
  options := ⟨[("tool","nuclei"),("tags","")],by decide⟩
  timeout := ⟨90000000000,by decide⟩
  parents := [
    result .subdomain .completed none (some (.subdomains [⟨"example.org","www",["::1"],""⟩])),
    result .service .pending (some "") (some (.ports [⟨80,"tcp","open",none⟩,⟨443,"tcp","open",some service⟩])),
    result .webTech .running none (some (.webTech { technologies := [{ name := "nginx" }] })),
    result .webPath .timeout (some "late") none,
    result .port .failed (some "kept anyway") (some (.vulnerabilities [finding]))]

def nightly : Pipeline where
  name := "nightly"
  stages := [{ name := "dns",scanners := ["subfinder"],dependsOn := ["nmap"],parallel := true }]
  timeout := some ⟨7200000000000,by decide⟩

lemma number?_severe : Json.number? severe.text = some (.float severe,[]) := by
  have text : severe.text = ['7','.','5'] := by decide +kernel
  have scaled : Json.scale 4 (Binary64.ofNat 75) (-1) = some severe := by decide +kernel
  have cut : Json.number? ['7','.','5'] = some (Json.floatValue false 75 (-1),[]) := by rfl
  rw [text,cut,Json.floatValue,scaled]
  rfl

lemma onCalendar_morning : morning.OnCalendar := ⟨by decide,by decide,by decide,by decide,by decide⟩

lemma onCalendar_leapSecond : leapSecond.OnCalendar := ⟨by decide,by decide,by decide,by decide,by decide⟩

lemma readable_brief : brief.Readable := rfl

lemma restorable_result (category : Category) (status : Status) (error : Option String) (payload : Option Payload)
    (scores : ∀ x ∈ (payload.map Payload.scores).getD [], x = severe) :
    (result category status error payload).Restorable where
  startTime := onCalendar_morning
  endTime := onCalendar_leapSecond
  duration := readable_brief
  scores x hx := by
    rw [scores x hx]
    decide

lemma scores_surveyed : surveyed.scores = [severe] := rfl

lemma restorable_surveyed : surveyed.Restorable where
  timeout := rfl
  parents := by
    unfold surveyed
    simp only [List.forall_mem_cons]
    refine ⟨?_,?_,?_,?_,?_,fun r none => absurd none List.not_mem_nil⟩
    all_goals exact restorable_result _ _ _ _ (by decide)

lemma restorable_nightly : nightly.Restorable where
  timeout d hd := by
    cases hd
    rfl

end Samples

open Samples in
/-- Results of every kind, complete and not, and a pipeline with a stage that waits for what no stage runs. -/
theorem restored_from_document_surveyed :
    ScanConfig.decode .json surveyed.encode = .ok surveyed ∧
      Decode.document (ScanConfig.decode .json) (Json.read (Json.compact surveyed.encode)) = .ok surveyed ∧
      Decode.document (ScanConfig.decode .json) (Json.read (Json.pretty surveyed.encode)) = .ok surveyed ∧
      Pipeline.decode .json nightly.encode = .ok nightly ∧
      Decode.document (Pipeline.decode .json) (Json.read (Json.pretty nightly.encode)) = .ok nightly := by
  obtain ⟨configs,pipelines⟩ := restored_from_document
  obtain ⟨tree,document⟩ := configs surveyed restorable_surveyed
  obtain ⟨tree',document'⟩ := pipelines nightly restorable_nightly
  have numbers : ∀ x ∈ surveyed.scores, Json.number? x.text = some (.float x,[]) := by
    intro x hx
    rw [scores_surveyed] at hx
    rw [List.mem_singleton.mp hx]
    exact number?_severe
  exact ⟨tree,document _ Json.oneLine_blank numbers,document _ Json.indented_blank numbers,tree',
    document' _ Json.indented_blank⟩

end Recon
