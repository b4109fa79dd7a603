import Recon.Proofs.Engine.Briefing
import Recon.Proofs.Engine.Forecast

/-! What a result says of its attempt. Whatever becomes of a scan that reaches its scanner, the parts of the
result fit together: the status, the payload, the error and the names all tell the same story, and of the
readers of payloads just the one for the category of the scanner gets something out of it. -/
namespace Recon

variable {σ : Type}

namespace ScanResult

/-- The result of an attempt of scanner `s` at `config` that ended with `error`, or well if there is none. -/
structure Records (x : ScanResult) (s : Scanner) (config : ScanConfig) (error : Option ScanError) : Prop where
  terminal : x.status.isTerminal = true
  completed_iff_payload : x.status = .completed ↔ x.payload.isSome = true
  completed_iff_unfailed : x.status = .completed ↔ x.error = none
  fits : ∀ payload, x.payload = some payload → x.category.accepts payload = true
  scanner : x.scanner = s.name
  category : x.category = s.category
  target : x.target = config.target
  timeout_iff : x.status = .timeout ↔ ∃ scanner limit, error = some (.scanTimeout scanner limit)
  message : x.error = error.map ScanError.message

lemma records_completed (s : Scanner) (config : ScanConfig) (t : Timing) {payload : Payload}
    (fits : s.category.accepts payload = true) :
    (completed s.name s.category config.target t payload).Records s config none where
  terminal := rfl
  completed_iff_payload := by simp [completed]
  completed_iff_unfailed := by simp [completed]
  fits found h := by
    obtain rfl := Option.some.inj h
    exact fits
  scanner := rfl
  category := rfl
  target := rfl
  timeout_iff := by simp [completed]
  message := rfl

lemma statusOf_eq_timeout_iff (e : ScanError) :
    statusOf e = .timeout ↔ ∃ scanner limit, e = .scanTimeout scanner limit := by
  cases e <;> simp [statusOf]

lemma records_unsuccessful (s : Scanner) (config : ScanConfig) (t : Timing) (e : ScanError) :
    (unsuccessful s.name s.category config.target t e).Records s config (some e) := by
  obtain ⟨terminal,failed⟩ := isTerminal_unsuccessful s.name s.category config.target t e
  have hs : statusOf e ≠ .completed := by simpa [isCompleted,unsuccessful] using failed
  have unfilled : (unsuccessful s.name s.category config.target t e).payload = none := rfl
  refine ⟨terminal,?_,?_,fun payload h => absurd (unfilled.symm.trans h) (Option.some_ne_none payload).symm,
    rfl,rfl,rfl,?_,rfl⟩
  · simpa [unsuccessful] using hs
  · simpa [unsuccessful] using hs
  · simpa [unsuccessful] using statusOf_eq_timeout_iff e

/-- What the reader for a kind of payload makes of a result. -/
def read (x : ScanResult) : Payload.Kind → Except ScanError Payload
  | .subdomain => x.subdomains.map .subdomains
  | .port => x.ports.map .ports
  | .webTech => x.webTech.map .webTech
  | .webPath => x.webPaths.map .webPaths
  | .vulnerability => x.vulnerabilities.map .vulnerabilities

lemma data_of_payload {x : ScanResult} {payload : Payload} (h : x.payload = some payload) :
    x.data = .ok payload := by
  simp only [data,h]

lemma read_of_payload {x : ScanResult} {payload : Payload} (h : x.payload = some payload)
    (kind : Payload.Kind) :
    x.read kind = if payload.kind = kind then .ok payload else .error (payload.mismatch kind) := by
  have hd := data_of_payload h
  cases kind <;> simp only [read,subdomains,ports,webTech,webPaths,vulnerabilities,hd] <;> cases payload <;> rfl

lemma read_of_no_payload {x : ScanResult} (h : x.payload = none) (kind : Payload.Kind) :
    x.read kind = .error (.invalidScanResult x.scanner (x.status.name ++ " result without data")) := by
  have hd : x.data = .error (.invalidScanResult x.scanner (x.status.name ++ " result without data")) := by
    simp only [data,h]
  cases kind <;> simp only [read,subdomains,ports,webTech,webPaths,vulnerabilities,hd] <;> rfl

/-- A completed result can be read in just one way, and one that did not complete in none. -/
structure ReadsAs (x : ScanResult) : Prop where
  own : x.status = .completed → ∃ payload, x.payload = some payload ∧ x.read x.category.payloadKind = .ok payload
  other : x.status = .completed → ∀ kind, kind ≠ x.category.payloadKind →
    x.read kind = .error (.conversionFailed kind.name x.category.payloadKind.name)
  nothing : x.status ≠ .completed → ∀ kind,
    x.read kind = .error (.invalidScanResult x.scanner (x.status.name ++ " result without data"))

lemma Records.readsAs {x : ScanResult} {s : Scanner} {config : ScanConfig} {error : Option ScanError}
    (h : x.Records s config error) : x.ReadsAs := by
  have found (hc : x.status = .completed) :
      ∃ payload, x.payload = some payload ∧ payload.kind = x.category.payloadKind := by
    obtain ⟨payload,hp⟩ := Option.isSome_iff_exists.mp (h.completed_iff_payload.mp hc)
    exact ⟨payload,hp,by simpa [Category.accepts] using h.fits payload hp⟩
  refine ⟨fun hc => ?_,fun hc kind hk => ?_,fun hc => ?_⟩
  · obtain ⟨payload,hp,own⟩ := found hc
    exact ⟨payload,hp,by rw [read_of_payload hp,if_pos own]⟩
  · obtain ⟨payload,hp,own⟩ := found hc
    rw [read_of_payload hp,if_neg (own ▸ hk.symm),← own]
    rfl
  · exact read_of_no_payload (by simpa using mt h.completed_iff_payload.mpr hc)

end ScanResult

namespace Registry

variable {r : Registry} {w : World σ} {config : ScanConfig} {now : Nat} {memory : σ}

/-- A scan records its attempt, in the name of the scanner that it was meant for. -/
theorem records_of_result {x : ScanResult} (h : (r.scan w config now memory).result? = some x) :
    ∃ s ∈ r.scanners, config.tool = some s.name ∧ x.Records s config (r.scan w config now memory).error? := by
  obtain ⟨s,hs,_,hr⟩ := attempt_of_result h
  obtain ⟨hm,ht⟩ := mem_of_select hs
  refine ⟨s,hm,ht,?_⟩
  rw [Attempt.result?_eq,hr] at h
  rw [Attempt.error?_eq,hr]
  obtain ⟨timing,payload,fits,hv⟩ | ⟨timing,error,hv⟩ := s.attempt_cases w config now memory
  · rw [hv] at h ⊢
    exact Option.some.inj h ▸ ScanResult.records_completed s config timing fits
  · rw [hv] at h ⊢
    exact Option.some.inj h ▸ ScanResult.records_unsuccessful s config timing error

end Registry

namespace Engine

/-- What a stage finds was left by one of its scans. -/
theorem exists_attempt_of_found {e : Engine σ} {p : Pipeline} {timeout : Duration} {v : Visit σ} {index : Nat}
    (ran : v.run = e.runStage p timeout index v.stage v.previous v.start v.memory) {x : ScanResult}
    (hx : x ∈ v.run.found) : ∃ a ∈ e.attempts p timeout v, a.result? = some x := by
  rw [ran] at hx
  cases hm : v.stage.parallel with
  | true =>
    rw [e.runStage_of_parallel _ _ _ _ _ _ _ hm,StageRun.found_of_ended (e.runParallel_verdict ..)] at hx
    obtain ⟨a,ha,hr⟩ := List.mem_filterMap.mp hx
    have ht := List.mem_filterMap.mpr ⟨a,(e.mem_arrived ..).mp ha,hr⟩
    rw [e.filterMap_result?_tasks] at ht
    rw [attempts_of_parallel hm]
    exact List.mem_filterMap.mp ht
  | false =>
    rw [e.runStage_of_serial _ _ _ _ _ _ _ hm] at hx
    rw [attempts_of_serial hm]
    cases hv : (e.runSerial (p.configFor timeout v.stage) v.previous [] v.stage.scanners v.start
        v.memory).verdict with
    | crashed text => simp [StageRun.found,hv] at hx
    | ended found error =>
      rw [StageRun.found_of_ended hv] at hx
      obtain ⟨a,ha,hc⟩ := (serial_account hv).exists_attempt hx
      exact ⟨a,ha,Attempt.result?_of_completed hc⟩

/-- Whatever a run hands out was left by a scan that it asked for, against the target of the pipeline. -/
theorem exists_scan_of_results {e : Engine σ} {policy : StageTimeout} {p : Pipeline} {now : Nat} {memory : σ}
    {results : List ScanResult} (h : (e.runPipeline policy p now memory).verdict.results? = some results)
    {x : ScanResult} (hx : x ∈ results) :
    ∃ config ∈ dispatches (e.runPipeline policy p now memory).events, config.target = p.target ∧
      ∃ start remembered, (e.registry.scan e.world config start remembered).result? = some x := by
  rw [e.results_of_run policy p now memory h] at hx
  obtain ⟨v,hv,hf⟩ := List.mem_flatMap.mp hx
  obtain ⟨_,ran⟩ := ran_of_mem_visited hv
  obtain ⟨a,ha,hr⟩ := exists_attempt_of_found ran hf
  obtain ⟨i,hi⟩ := List.getElem?_of_mem ha
  obtain ⟨name,start,remembered,_,rfl,_⟩ := attempts_asked hi
  refine ⟨_,mem_dispatches.mpr ?_,rfl,start,remembered,hr⟩
  rw [e.events_runPipeline policy p now memory]
  refine List.mem_flatMap.mpr ⟨v,hv,?_⟩
  rw [events_of_visit ran]
  refine List.mem_flatMap.mpr ⟨_,ha,mem_dispatches.mp ?_⟩
  rw [Registry.dispatches_scan]
  exact List.mem_singleton_self _

/-- Every result is a record of its attempt, whether a scan gives it or a run hands it out, and however they
end: it comes from the scanner that the configuration asks for, its parts fit together, and it can be read as
what that scanner looks for, if it completed, and as nothing else. -/
theorem results_record_attempts (e : Engine σ) :
    (∀ config now memory x, (e.registry.scan e.world config now memory).result? = some x →
      ∃ s ∈ e.registry.scanners, config.tool = some s.name ∧
        x.Records s config (e.registry.scan e.world config now memory).error? ∧ x.ReadsAs) ∧
    ∀ policy p now memory results, (e.runPipeline policy p now memory).verdict.results? = some results →
      ∀ x ∈ results, ∃ config ∈ dispatches (e.runPipeline policy p now memory).events,
        config.target = p.target ∧ ∃ start remembered,
          (e.registry.scan e.world config start remembered).result? = some x ∧
          ∃ s ∈ e.registry.scanners, config.tool = some s.name ∧
            x.Records s config (e.registry.scan e.world config start remembered).error? ∧ x.ReadsAs := by
  constructor
  · intro config now memory x hx
    obtain ⟨s,hs,ht,records⟩ := Registry.records_of_result hx
    exact ⟨s,hs,ht,records,records.readsAs⟩
  · intro policy p now memory results handed x hx
    obtain ⟨config,hd,target,start,remembered,hr⟩ := exists_scan_of_results handed hx
    obtain ⟨s,hs,ht,records⟩ := Registry.records_of_result hr
    exact ⟨config,hd,target,start,remembered,hr,s,hs,ht,records,records.readsAs⟩

/-- One scanner takes its time, the other finds what it should not look for. -/
def unsuited : Engine Unit := still
  { scanners := [.doing "nmap" .port (.sleep 5 (.finish (.ports []))),
      .doing "dns" .service (.finish (.subdomains []))]
    nodup := by decide
    named := by decide }

/-- There are three nanoseconds for each scan. -/
def hasty : Pipeline where
  name := "audit"
  projectId := 1
  target := "example.com"
  stages := [{ name := "hosts", scanners := ["nmap","dns"], parallel := true }]
  timeout := some ⟨3,by decide⟩

theorem results_record_attempts_hasty :
    (∃ x, (halfFailing.registry.scan halfFailing.world ((ScanConfig.create 1 "example.com").withTool "dns") 0
        ()).result? = some x ∧ x.status = .completed ∧ x.read .subdomain = .ok (.subdomains []) ∧
      x.read .port = .error (.conversionFailed "port" "subdomain")) ∧
    ∃ x y, (unsuited.runPipeline .ofPipeline hasty 0 ()).verdict.results? = some [y,x] ∧
      x.scanner = "nmap" ∧ x.status = .timeout ∧ x.error = some "nmap timed out after 3ns" ∧ x.ReadsAs ∧
      y.scanner = "dns" ∧ y.status = .failed ∧
      y.error = some "dns produced invalid scan data: subdomain data from a service scanner" ∧
      y.read .port = .error (.invalidScanResult "dns" "failed result without data") := by
  obtain ⟨scan,_⟩ := halfFailing.results_record_attempts
  obtain ⟨_,run⟩ := unsuited.results_record_attempts
  constructor
  · obtain ⟨_,_,_,_,reads⟩ := scan ((ScanConfig.create 1 "example.com").withTool "dns") 0 () _ rfl
    obtain ⟨payload,hp,own⟩ := reads.own rfl
    cases hp
    exact ⟨_,rfl,rfl,own,reads.other rfl .port nofun⟩
  · have each := run .ofPipeline hasty 0 () _ rfl
    obtain ⟨_,_,_,_,_,_,_,_,_,_,slow⟩ := each _ (List.mem_of_getElem? (i := 1) rfl)
    obtain ⟨_,_,_,_,_,_,_,_,_,_,odd⟩ := each _ (List.mem_of_getElem? (i := 0) rfl)
    exact ⟨_,_,rfl,rfl,rfl,by decide,slow,rfl,rfl,by decide,odd.nothing nofun .port⟩

end Engine
end Recon
