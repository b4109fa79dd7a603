import Recon.Codec.Pipeline
import Recon.Proofs.Codec.Calendar
import Recon.Proofs.Decode.Fields
import Recon.Proofs.Json.Reading

/-! Whatever was written is read back. What a record leaves out when it is not set is what its reader takes for
granted, at every depth: services of ports, payloads and errors of results, results among what a scanner is told. -/
namespace Recon

open Fields (decode_of_finds)

section Options

lemma assign_of_not_mem {α : Type} {key : String} {entries : List (String × α)}
    (h : key ∉ entries.map (·.1)) (value : α) : assign key value entries = entries ++ [(key,value)] := by
  induction entries with
  | nil => rfl
  | cons e entries ih =>
    obtain ⟨k,v⟩ := e
    rw [List.map_cons,List.mem_cons,not_or] at h
    rw [assign,if_neg (Ne.symm h.1),ih h.2,List.cons_append]

/-- Entries of new names go to the end. -/
theorem Dict.entries_insertAll {α : Type} (d : Dict α) (entries : List (String × α))
    (fresh : ((d.entries ++ entries).map (·.1)).Nodup) : (d.insertAll entries).entries = d.entries ++ entries := by
  induction entries generalizing d with
  | nil => exact (List.append_nil _).symm
  | cons e entries ih =>
    obtain ⟨key,value⟩ := e
    have new : key ∉ d.entries.map (·.1) := by
      rw [List.map_append,List.map_cons,List.nodup_append] at fresh
      intro old
      exact fresh.2.2 key old key List.mem_cons_self rfl
    have added : (d.insert key value).entries = d.entries ++ [(key,value)] := assign_of_not_mem new value
    change ((d.insert key value).insertAll entries).entries = _
    rw [ih]
    · rw [added,List.append_assoc]
      rfl
    · rw [added,List.append_assoc]
      exact fresh

lemma Dict.eq_of_entries {α : Type} {d₁ d₂ : Dict α} (h : d₁.entries = d₂.entries) : d₁ = d₂ := by
  cases d₁
  cases d₂
  cases h
  rfl

lemma Dict.ofList_entries {α : Type} (d : Dict α) : Dict.ofList d.entries = d :=
  Dict.eq_of_entries (Dict.entries_insertAll .empty d.entries d.nodup)

/-- A table with free keys is read back when each of its values is. -/
theorem Decode.dict_map {α : Type} {encode : α → Value} {read : Value → Decoded α}
    (each : ∀ a, read (encode a) = .ok a) (d : Dict α) :
    Decode.dict read (.table (d.entries.map fun e => (e.1,encode e.2))) = .ok d := by
  have entries (es : List (String × α)) : Decode.entries read (es.map fun e => (e.1,encode e.2)) = .ok es := by
    induction es with
    | nil => rfl
    | cons e es ih =>
      rw [List.map_cons,Decode.entries,each,ih]
      rfl
  change (Decode.entries read (d.entries.map fun e => (e.1,encode e.2))).map Dict.ofList = .ok d
  rw [entries]
  exact congrArg Except.ok d.ofList_entries

lemma Dict.decode_encode (d : Dict String) : Dict.decode d.encode = .ok d :=
  Decode.dict_map Decode.text_text d

end Options

variable (format : Format)

section Payload

lemma Subdomain.decode_encode (s : Subdomain) : Subdomain.fields.decode format s.encode = .ok s :=
  decode_of_finds format (by decide) (.refl _)
    (.map (.and (.and (.text rfl) (.text rfl)) (.and (.found rfl (Decode.texts_texts s.ips)) (.text rfl))) rfl)

lemma Service.decode_encode (s : Service) : Service.fields.decode format s.encode = .ok s :=
  decode_of_finds format (by decide) (.refl _)
    (.map (.and (.and (.text rfl) (.text rfl)) (.and (.text rfl) (.text rfl))) rfl)

lemma Port.decode_encode (p : Port) : (Port.fields format).decode format p.encode = .ok p := by
  have unique : ["port","protocol","state","service"].Nodup := by decide
  refine decode_of_finds format unique (keys_append_present (.refl _) _ _)
    (.map (.and (.and (.found rfl (Decode.uint16_ofNat p.port)) (.text rfl))
      (.and (.text rfl) (.optional ?_ (fun _ => Value.noConfusion) fun s _ => s.decode_encode format))) rfl)
  exact lookup?_append_present rfl _

lemma Technology.decode_encode (t : Technology) : Technology.fields.decode format t.encode = .ok t :=
  decode_of_finds format (by decide) (.refl _) (.map (.and (.text rfl) (.and (.text rfl) (.text rfl))) rfl)

lemma WebTech.decode_encode (w : WebTech) : (WebTech.fields format).decode format w.encode = .ok w := by
  have technologies : Decode.list (Technology.fields.decode format) (.list (w.technologies.map Technology.encode)) =
      .ok w.technologies := Decode.list_map fun t _ => t.decode_encode format
  have unique : ["url","status_code","title","technologies"].Nodup := by decide
  exact decode_of_finds format unique (.refl _)
    (.map (.and (.and (.text rfl) (.found rfl (Decode.uint16_ofNat w.statusCode)))
      (.and (.text rfl) (.found rfl technologies))) rfl)

lemma WebPath.decode_encode (w : WebPath) : WebPath.fields.decode format w.encode = .ok w :=
  decode_of_finds format (by decide) (.refl _)
    (.map (.and (.and (.text rfl) (.text rfl)) (.and (.found rfl (Decode.uint16_ofNat w.statusCode))
      (.and (.found rfl (Decode.uint64_ofNat w.length)) (.text rfl)))) rfl)

lemma Vulnerability.decode_encode (v : Vulnerability) : Vulnerability.fields.decode format v.encode = .ok v :=
  decode_of_finds format (by decide) (.refl _)
    (.map (.and (.and (.and (.text rfl) (.text rfl)) (.and (.text rfl) (.text rfl)))
      (.and (.and (.text rfl) (.found rfl rfl)) (.and (.text rfl) (.and (.text rfl) (.text rfl))))) rfl)

namespace Payload

lemma Kind.ofName?_name (k : Kind) : Kind.ofName? k.name = some k := by
  cases k <;> rfl

/-- A payload made of a list is a record with one field. -/
theorem decode_listed {α : Type} {name : String} {encode : α → Value} {d : Value → Decoded α} {h : List α → Payload}
    {found : List α} (each : ∀ a, d (encode a) = .ok a) :
    ((Fields.required name (Decode.list d)).map h).decode format (listed name (found.map encode)) = .ok (h found) := by
  have read : lookup? name [(name,Value.list (found.map encode))] = some (.list (found.map encode)) := by
    simp [lookup?]
  refine decode_of_finds format (List.pairwise_singleton _ name) (.refl _) (.map (.found read ?_) rfl)
  exact Decode.list_map fun a _ => each a

lemma decodeContent_content (p : Payload) : decodeContent format p.kind p.content = .ok p := by
  cases p with
  | subdomains found => exact decode_listed format fun s => s.decode_encode format
  | ports found => exact decode_listed format fun p => p.decode_encode format
  | webTech found =>
    have read := Fields.decode_map format Payload.webTech (WebTech.fields format) found.encode
    rw [found.decode_encode format] at read
    exact read
  | webPaths found => exact decode_listed format fun w => w.decode_encode format
  | vulnerabilities found => exact decode_listed format fun v => v.decode_encode format

lemma decode_encode (p : Payload) : decode format p.encode = .ok p := by
  have known : (Kind.ofName? p.kind.name).map (decodeContent format) = some (decodeContent format p.kind) := by
    rw [Kind.ofName?_name]
    rfl
  exact (Decode.tagged_of_some known p.content).trans (p.decodeContent_content format)

end Payload

end Payload

section Result

lemma Category.decode_encode (c : Category) : Category.decode format c.encode = .ok c :=
  Decode.name_text format c.ofName?_name

lemma Status.decode_encode (s : Status) : Status.decode format s.encode = .ok s :=
  Decode.name_text format s.ofName?_name

/-- The written form of the span is read as the span. -/
def Duration.Readable (d : Duration) : Prop := Duration.read d.text = .ok d

lemma Duration.decode_encode {d : Duration} (h : d.Readable) : Decode.duration format d.encode = .ok d := by
  rw [Duration.encode,Decode.duration,String.toList_ofList,h]

lemma Moment.decode_encode {t : Moment} (h : t.OnCalendar) : Moment.decode t.encode = .ok t := by
  rw [Moment.encode,Moment.decode,String.toList_ofList,Moment.read?_text h]
  rfl

/-- The scores of the vulnerabilities found. -/
def Payload.scores : Payload → List Binary64
  | .vulnerabilities found => found.map (·.cvss)
  | _ => []

def ScanResult.scores (r : ScanResult) : List Binary64 := (r.payload.map Payload.scores).getD []

/-- The written form of the span is read as the span, the times are times of the calendar, the scores are numbers. -/
structure ScanResult.Restorable (r : ScanResult) : Prop where
  startTime : r.startTime.OnCalendar
  endTime : r.endTime.OnCalendar
  duration : r.duration.Readable
  scores : ∀ x ∈ r.scores, x.isFinite = true

lemma ScanResult.decode_encode {r : ScanResult} (h : r.Restorable) : ScanResult.decode format r.encode = .ok r := by
  have unique : ["scanner_name","category","target","start_time","end_time","duration","status","error",
      "data"].Nodup := by decide
  refine decode_of_finds format unique (keys_append_present (keys_append_present (.refl _) _ _) _ _)
    (.map (.and (.and (.text rfl) (.and (.found rfl (r.category.decode_encode format)) (.text rfl)))
      (.and (.and (.found rfl (Moment.decode_encode h.startTime)) (.and (.found rfl (Moment.decode_encode h.endTime))
        (.found rfl (Duration.decode_encode format h.duration))))
        (.and (.found rfl (r.status.decode_encode format))
          (.and (.optional ?_ (fun _ => Value.noConfusion) fun s _ => Decode.text_text s)
            (.optional ?_ (fun _ => Value.noConfusion) fun p _ => p.decode_encode format))))) rfl)
  -- the error and the data stand behind the fields that are always written, each only if set
  · rw [lookup?_append_present_of_ne (by decide)]
    exact lookup?_append_present rfl _
  · apply lookup?_append_present
    rw [lookup?_append_present_of_ne (by decide)]
    rfl

end Result

section Record

def ScanConfig.scores (c : ScanConfig) : List Binary64 := c.parents.flatMap ScanResult.scores

structure ScanConfig.Restorable (c : ScanConfig) : Prop where
  timeout : c.timeout.Readable
  parents : ∀ r ∈ c.parents, r.Restorable

lemma ScanConfig.decode_encode {c : ScanConfig} (h : c.Restorable) : decode format c.encode = .ok c := by
  have unique : ["project_id","target","options","timeout","parent_results"].Nodup := by decide
  refine decode_of_finds format unique (keys_append_present (.refl _) _ _)
    (.map (.and (.and (.found rfl (Decode.uint64_ofNat c.projectId)) (.text rfl))
      (.and (.found rfl c.options.decode_encode)
        (.and (.found rfl (Duration.decode_encode format h.timeout)) (.named ?_)))) rfl)
  rw [lookup?_append_present rfl]
  -- no results are written for none, and the default of the reader is none
  by_cases alone : c.parents = []
  · rw [alone]
    rfl
  · rw [if_neg (by simpa using alone)]
    exact Decode.list_map fun r hr => ScanResult.decode_encode format (h.parents r hr)

lemma Stage.decode_encode (s : Stage) : Stage.fields.decode format s.encode = .ok s :=
  decode_of_finds format (by decide) (.refl _)
    (.map (.and (.and (.text rfl) (.found rfl (Decode.texts_texts s.scanners)))
      (.and (.found rfl s.options.decode_encode)
        (.and (.found rfl rfl) (.found rfl (Decode.texts_texts s.dependsOn))))) rfl)

structure Pipeline.Restorable (p : Pipeline) : Prop where
  timeout : ∀ d ∈ p.timeout, d.Readable

lemma Pipeline.decode_encode {p : Pipeline} (h : p.Restorable) : decode format p.encode = .ok p := by
  have unique : ["name","project_id","target","stages","continue_on_error","timeout"].Nodup := by decide
  have stages : Decode.list (Stage.fields.decode format) (.list (p.stages.map Stage.encode)) = .ok p.stages :=
    Decode.list_map fun s _ => s.decode_encode format
  refine decode_of_finds format unique (keys_append_present (.refl _) _ _)
    (.map (.and (.and (.text rfl) (.and (.found rfl (Decode.uint64_ofNat p.projectId)) (.text rfl)))
      (.and (.found rfl stages) (.and (.found rfl rfl)
        (.optional ?_ (fun _ => Value.noConfusion)
          fun d hd => Duration.decode_encode format (h.timeout d hd))))) rfl)
  exact lookup?_append_present rfl _

end Record
end Recon
