import Recon.Codec.Config
import Recon.Model.Pipeline

/-! Pipelines as trees. A timeout is only written when set. -/
namespace Recon

namespace Stage

def encode (s : Stage) : Value :=
  .table [("name",.text s.name),("scanner_names",.texts s.scanners),("options",s.options.encode),
    ("parallel",.bool s.parallel),("depends_on",.texts s.dependsOn)]

def fields : Fields Stage :=
  (((Fields.required "name" Decode.text).and (.required "scanner_names" Decode.texts)).and
    ((Fields.withDefault "options" Dict.decode .empty).and
      ((Fields.withDefault "parallel" Decode.bool false).and (.withDefault "depends_on" Decode.texts [])))).map
    fun ((name,scanners),options,parallel,dependsOn) => ⟨name,scanners,options,parallel,dependsOn⟩

end Stage

namespace Pipeline

def encode (p : Pipeline) : Value :=
  .table ([("name",.text p.name),("project_id",.ofNat p.projectId.toNat),("target",.text p.target),
      ("stages",.list (p.stages.map Stage.encode)),("continue_on_error",.bool p.continueOnError)]
    ++ Value.present "timeout" (p.timeout.map Duration.encode))

def fields (format : Format) : Fields Pipeline :=
  (((Fields.required "name" Decode.text).and
      ((Fields.withDefault "project_id" Decode.uint64 0).and (.withDefault "target" Decode.text ""))).and
    ((Fields.withDefault "stages" (Decode.list (Stage.fields.decode format)) []).and
      ((Fields.withDefault "continue_on_error" Decode.bool false).and
        (.withDefault "timeout" (Decode.optional (Decode.duration format)) none)))).map
    fun ((name,projectId,target),stages,continueOnError,timeout) =>
      ⟨name,projectId,target,stages,continueOnError,timeout⟩

def decode (format : Format) : Value → Decoded Pipeline := (fields format).decode format

end Pipeline
end Recon
