import Recon.Proofs.Codec.Documents
import Recon.Proofs.Duration.Written

/-! Saving a span that was loaded from a text. Microseconds can be read but are not written: a number of them that makes
no whole milliseconds is saved in nanoseconds, and a thousand times the number need not have 64 bits. What is saved with
a timeout is restored just if the timeout is: nothing else in pipelines and settings is lost. -/
namespace Recon

open Fields (decode_of_finds ofTable_of_decode exists_of_ofTable_map ofTable_and_iff read_of_ofTable_withDefault)

variable (format : Format)

lemma Duration.decode_encode_iff {d : Duration} : Decode.duration format d.encode = .ok d ↔ d.Readable := by
  rw [Duration.encode,Decode.duration,String.toList_ofList,Readable]
  cases Duration.read d.text <;> simp

/-- A configuration is restored just if its timeout is, when the results in it are. -/
theorem ScanConfig.decode_encode_iff {c : ScanConfig} (parents : ∀ r ∈ c.parents, r.Restorable) :
    decode format c.encode = .ok c ↔ c.timeout.Readable := by
  refine ⟨fun read => ?_,fun timeout => ScanConfig.decode_encode format ⟨timeout,parents⟩⟩
  have unique : ["project_id","target","options","timeout","parent_results"].Nodup := by decide
  obtain ⟨⟨_,_,timeout,_⟩,held,made⟩ := exists_of_ofTable_map (ofTable_of_decode read)
  have same : timeout = c.timeout := congrArg ScanConfig.timeout made
  obtain ⟨held,-⟩ := ofTable_and_iff.mp (ofTable_and_iff.mp (ofTable_and_iff.mp held).2).2
  rw [same] at held
  have read := read_of_ofTable_withDefault held (unique.sublist (keys_append_present (.refl _) _ _)) rfl
  exact (Duration.decode_encode_iff format).mp read

/-- A pipeline is restored just if its timeout is. -/
theorem Pipeline.decode_encode_iff {p : Pipeline} {d : Duration} (timed : p.timeout = some d) :
    decode format p.encode = .ok p ↔ d.Readable := by
  constructor
  · intro read
    have unique : ["name","project_id","target","stages","continue_on_error","timeout"].Nodup := by decide
    obtain ⟨⟨_,_,_,timeout⟩,held,made⟩ := exists_of_ofTable_map (ofTable_of_decode read)
    have same : timeout = some d := (congrArg Pipeline.timeout made).trans timed
    obtain ⟨-,held⟩ := ofTable_and_iff.mp (ofTable_and_iff.mp (ofTable_and_iff.mp held).2).2
    have written : p.timeout.map Duration.encode = some d.encode := by rw [timed,Option.map_some]
    rw [same] at held
    have read := read_of_ofTable_withDefault held (unique.sublist (keys_append_present (.refl _) _ _))
      ((lookup?_append_present rfl _).trans written)
    exact (Duration.decode_encode_iff format).mp (Decode.ok_of_optional read)
  · intro readable
    refine Pipeline.decode_encode format ⟨fun d' same => ?_⟩
    obtain rfl : d = d' := Option.some.inj (timed.symm.trans same)
    exact readable

section Settings

lemma LogLevel.decode_encode (l : LogLevel) : decode l.encode = .ok l := by
  cases l <;> rfl

lemma LogSettings.decode_encode (s : LogSettings) : fields.decode format s.encode = .ok s := by
  have unique : ["level","additional"].Nodup := by decide
  have written : s.encode = .table ([("level",s.level.encode)] ++ Value.present "additional"
    (if s.additional.entries.isEmpty then none
      else some (.table (s.additional.entries.map fun e => (e.1,e.2.encode))))) := rfl
  rw [written]
  refine decode_of_finds format unique (keys_append_present (.refl _) _ _)
    (.map (.and (.found rfl s.level.decode_encode) (.named ?_)) rfl)
  rw [lookup?_append_present rfl]
  -- no levels are written for none, and the default of the reader is none
  by_cases alone : s.additional.entries = []
  · rw [alone]
    exact congrArg Except.ok (Dict.eq_of_entries alone.symm)
  · rw [if_neg (by simpa using alone)]
    exact Decode.dict_map LogLevel.decode_encode s.additional

/-- Only the timeout of the stages can keep the settings of pipelines from being restored. -/
theorem PipelineSettings.decode_encode_iff {s : PipelineSettings} :
    (fields format).decode format s.encode = .ok s ↔ s.stageTimeout.Readable := by
  have unique : ["stage_timeout","honor_pipeline_timeout","continue_on_error"].Nodup := by decide
  constructor
  · intro read
    obtain ⟨⟨timeout,_,_⟩,held,made⟩ := exists_of_ofTable_map (ofTable_of_decode read)
    have same : timeout = s.stageTimeout := congrArg PipelineSettings.stageTimeout made
    obtain ⟨held,-⟩ := ofTable_and_iff.mp held
    rw [same] at held
    have read := read_of_ofTable_withDefault held (unique.sublist (keys_append_present (.refl _) _ _)) rfl
    exact (Duration.decode_encode_iff format).mp read
  · intro readable
    refine decode_of_finds format unique (keys_append_present (.refl _) _ _)
      (.map (.and (.found rfl (Duration.decode_encode format readable))
        (.and (.found rfl rfl) (.optional ?_ (fun _ => Value.noConfusion) fun b _ => Decode.bool_bool b))) rfl)
    exact lookup?_append_present rfl _

lemma Settings.decode_encode_iff {s : Settings} :
    decode format s.encode = .ok s ↔ s.pipeline.stageTimeout.Readable := by
  have unique : ["log","pipeline","tools"].Nodup := by decide
  rw [← PipelineSettings.decode_encode_iff format]
  constructor
  · intro read
    obtain ⟨⟨_,pipeline,_⟩,held,made⟩ := exists_of_ofTable_map (ofTable_of_decode read)
    have same : pipeline = s.pipeline := congrArg Settings.pipeline made
    obtain ⟨held,-⟩ := ofTable_and_iff.mp (ofTable_and_iff.mp held).2
    rw [same] at held
    exact read_of_ofTable_withDefault held unique rfl
  · intro restored
    have tools : (Dict.decode s.tools.programs.encode).map ToolPaths.mk = .ok s.tools := by
      rw [Dict.decode_encode]
      rfl
    exact decode_of_finds format unique (.refl _)
      (.map (.and (.found rfl (s.log.decode_encode format)) (.and (.found rfl restored) (.found rfl tools))) rfl)

end Settings

namespace Duration

/-- The number of the written form, by the number and the unit of the text that was loaded. -/
theorem count_lt_iff {n : Nat} {u : Unit} {d : Duration} (held : n < UInt64.size) (exactly : d.nanos = n * u.nanos) :
    d.count < UInt64.size ↔ (u = .micro → 1000 ∣ n ∨ n * 1000 < UInt64.size) := by
  have whole := d.count_mul
  by_cases seconds : Unit.second.nanos ∣ d.nanos
  · refine iff_of_true (d.count_lt (d.suits_unit.second_le seconds)) ?_
    rintro rfl
    simp only [Unit.nanos] at seconds exactly
    exact .inl (by omega)
  by_cases thousandths : Unit.milli.nanos ∣ d.nanos
  · rw [d.suits_unit.unique (.milli thousandths seconds)] at whole
    cases u <;> simp [Unit.nanos] at * <;> omega
  · rw [d.suits_unit.unique (.nano thousandths)] at whole
    cases u <;> simp [Unit.nanos] at * <;> omega

/-- A span loaded from a text is saved as a text that is loaded as the same span, unless the text counts microseconds
that make no whole milliseconds and a thousand times of which has more than 64 bits. The number saved is then called
invalid. Pipelines, settings and configurations with the span as their timeout are restored just if the span is. -/
theorem loaded_text_saved {cs : List Char} {d : Duration} (loaded : read cs = .ok d) :
    ∃ n u, Spells cs n u ∧ d.nanos = n * u.nanos ∧
      (d.Readable ↔ (u = .micro → 1000 ∣ n ∨ n * 1000 < UInt64.size)) ∧
      (¬ d.Readable → read d.text = .error (.invalidNumber d.text)) ∧
      ∀ format : Format,
        (∀ p : Pipeline, p.timeout = some d → (Pipeline.decode format p.encode = .ok p ↔ d.Readable)) ∧
        (∀ s : Settings, s.pipeline.stageTimeout = d → (Settings.decode format s.encode = .ok s ↔ d.Readable)) ∧
        ∀ c : ScanConfig, c.timeout = d → (∀ r ∈ c.parents, r.Restorable) →
          (ScanConfig.decode format c.encode = .ok c ↔ d.Readable) := by
  obtain ⟨n,u,spelled,-,exactly⟩ := read_eq_ok_iff.mp loaded
  have readable : d.Readable ↔ d.count < UInt64.size := d.read_text_eq_ok_iff
  refine ⟨n,u,spelled,exactly,?_,fun lost => ?_,fun format => ⟨fun p => Pipeline.decode_encode_iff format,?_,?_⟩⟩
  · exact readable.trans (count_lt_iff spelled.held exactly)
  · exact d.read_text_of_large (Nat.le_of_not_lt (mt readable.mpr lost))
  · rintro s rfl
    exact Settings.decode_encode_iff format
  · rintro c rfl
    exact ScanConfig.decode_encode_iff format

/-- The largest number of microseconds in whole milliseconds. A thousand times the number has more than 64 bits. -/
theorem loaded_text_saved_largest : ∃ d : Duration, read "18446744073709551000µs".toList = .ok d ∧
    UInt64.size ≤ d.nanos ∧ d.Readable := by
  have loaded : read "18446744073709551000µs".toList = .ok ⟨18446744073709551000000,by decide⟩ := rfl
  obtain ⟨n,u,-,exactly,saved,-,-⟩ := loaded_text_saved loaded
  refine ⟨_,loaded,by decide,saved.mpr ?_⟩
  rintro rfl
  simp only [Unit.nanos] at exactly
  exact .inl (by omega)

/-- The smallest number of microseconds that is not read back, alone and as the timeout of a pipeline. -/
theorem loaded_text_lost : (∃ d : Duration, read "18446744073709552us".toList = .ok d ∧
      d.text = "18446744073709552000ns".toList ∧ read d.text = .error (.invalidNumber d.text)) ∧
    ∃ p : Pipeline, Decode.document (Pipeline.decode .json)
        (Json.read "\x7b\"name\": \"p\", \"timeout\": \"18446744073709552us\"\x7d".toList) = .ok p ∧
      Decode.document (Pipeline.decode .json) (Json.read (Json.compact p.encode)) =
        .error (.duration (.unreadable (.invalidNumber "18446744073709552000ns".toList))) := by
  constructor
  · refine ⟨⟨18446744073709552000,by decide⟩,?_,?_,?_⟩
    · rfl
    · rfl
    · rfl
  · refine ⟨⟨"p",0,"",[],false,some ⟨18446744073709552000,by decide⟩⟩,?_,?_⟩
    · rfl
    · rw [Json.compact,Json.read_print Json.oneLine_blank (Pipeline.legible _)]
      rfl

end Duration
end Recon
