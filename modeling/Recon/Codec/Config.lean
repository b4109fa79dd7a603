import Recon.Codec.Result
import Recon.Model.Config

/-! Scan configurations as trees. Results of earlier stages are only written when there are some. -/
namespace Recon

def Dict.encode (d : Dict String) : Value := .table (d.entries.map fun (key,value) => (key,.text value))

def Dict.decode : Value → Decoded (Dict String) := Decode.dict Decode.text

namespace ScanConfig

def encode (c : ScanConfig) : Value :=
  .table ([("project_id",.ofNat c.projectId.toNat),("target",.text c.target),
      ("options",c.options.encode),("timeout",c.timeout.encode)]
    ++ Value.present "parent_results"
        (if c.parents.isEmpty then none else some (.list (c.parents.map ScanResult.encode))))

def fields (format : Format) : Fields ScanConfig :=
  (((Fields.required "project_id" Decode.uint64).and (.required "target" Decode.text)).and
    ((Fields.withDefault "options" Dict.decode .empty).and
      ((Fields.withDefault "timeout" (Decode.duration format) .zero).and
        (.withDefault "parent_results" (Decode.list (ScanResult.decode format)) [])))).map
    fun ((projectId,target),options,timeout,parents) => ⟨projectId,target,options,timeout,parents⟩

def decode (format : Format) : Value → Decoded ScanConfig := (fields format).decode format

end ScanConfig
end Recon
