import Recon.Cli.LogLevel
import Recon.Codec.Config
import Recon.Engine.Run
import Recon.Tool.Command

/-! What a settings file says: how much is logged, how pipelines are run and where the tools are. Every
part may be missing and then has its usual value. -/
namespace Recon

structure LogSettings where
  level : LogLevel := default
  /-- Levels of parts of the program. -/
  additional : Dict LogLevel := .empty
deriving DecidableEq

structure PipelineSettings where
  /-- The timeout of each scan of a pipeline. -/
  stageTimeout : Duration := StageTimeout.standard
  /-- Whether the timeout of the pipeline is used instead. -/
  honorPipelineTimeout : Bool := false
  /-- Overrides what pipelines say about going on after an error. -/
  continueOnError : Option Bool := none
deriving DecidableEq

structure Settings where
  log : LogSettings := {}
  pipeline : PipelineSettings := {}
  tools : ToolPaths := ⟨.empty⟩
deriving DecidableEq

instance : Inhabited Settings := ⟨{}⟩

def PipelineSettings.policy (s : PipelineSettings) : StageTimeout :=
  if s.honorPipelineTimeout then .ofPipeline else .fixed s.stageTimeout

/-- The pipeline as it is run under these settings. -/
def PipelineSettings.apply (s : PipelineSettings) (p : Pipeline) : Pipeline :=
  match s.continueOnError with
  | none => p
  | some b => p.withContinueOnError b

namespace LogLevel

def encode (l : LogLevel) : Value := .text l.name

def decode : Value → Decoded LogLevel
  | .text s => (read? s).elim (.error .mismatch) .ok
  | _ => .error .mismatch

end LogLevel

namespace LogSettings

def encode (s : LogSettings) : Value :=
  .table (("level",s.level.encode) :: Value.present "additional"
    (if s.additional.entries.isEmpty then none
      else some (.table (s.additional.entries.map fun (name,level) => (name,level.encode)))))

def fields : Fields LogSettings :=
  ((Fields.withDefault "level" LogLevel.decode default).and
    (.withDefault "additional" (Decode.dict LogLevel.decode) .empty)).map
    fun (level,additional) => ⟨level,additional⟩

end LogSettings

namespace PipelineSettings

def encode (s : PipelineSettings) : Value :=
  .table ([("stage_timeout",s.stageTimeout.encode),("honor_pipeline_timeout",.bool s.honorPipelineTimeout)]
    ++ Value.present "continue_on_error" (s.continueOnError.map .bool))

def fields (format : Format) : Fields PipelineSettings :=
  ((Fields.withDefault "stage_timeout" (Decode.duration format) StageTimeout.standard).and
    ((Fields.withDefault "honor_pipeline_timeout" Decode.bool false).and
      (.withDefault "continue_on_error" (Decode.optional Decode.bool) none))).map
    fun (stageTimeout,honorPipelineTimeout,continueOnError) =>
      ⟨stageTimeout,honorPipelineTimeout,continueOnError⟩

end PipelineSettings

namespace Settings

def encode (s : Settings) : Value :=
  .table [("log",s.log.encode),("pipeline",s.pipeline.encode),("tools",s.tools.programs.encode)]

def fields (format : Format) : Fields Settings :=
  ((Fields.withDefault "log" (LogSettings.fields.decode format) {}).and
    ((Fields.withDefault "pipeline" ((PipelineSettings.fields format).decode format) {}).and
      (.withDefault "tools" (fun v => (Dict.decode v).map ToolPaths.mk) ⟨.empty⟩))).map
    fun (log,pipeline,tools) => ⟨log,pipeline,tools⟩

def decode (format : Format) : Value → Decoded Settings := (fields format).decode format

end Settings
end Recon
