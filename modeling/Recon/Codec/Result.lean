import Recon.Codec.Payload
import Recon.Model.Result

/-! Results as trees. Error and data are only written when set. -/
namespace Recon

def Duration.encode (d : Duration) : Value := .text (String.ofList d.text)

def Moment.encode (t : Moment) : Value := .text (String.ofList t.text)

def Moment.decode : Value → Decoded Moment
  | .text s => (Moment.read? s.toList).elim (.error .mismatch) .ok
  | _ => .error .mismatch

def Status.encode (s : Status) : Value := .text s.name

def Status.decode (format : Format) : Value → Decoded Status := Decode.name format Status.ofName?

namespace ScanResult

def encode (r : ScanResult) : Value :=
  .table ([("scanner_name",.text r.scanner),("category",r.category.encode),("target",.text r.target),
      ("start_time",r.startTime.encode),("end_time",r.endTime.encode),("duration",r.duration.encode),
      ("status",r.status.encode)]
    ++ Value.present "error" (r.error.map .text) ++ Value.present "data" (r.payload.map Payload.encode))

def fields (format : Format) : Fields ScanResult :=
  (((Fields.required "scanner_name" Decode.text).and
      ((Fields.required "category" (Category.decode format)).and (.required "target" Decode.text))).and
    (((Fields.required "start_time" Moment.decode).and
        ((Fields.required "end_time" Moment.decode).and (.required "duration" (Decode.duration format)))).and
      ((Fields.required "status" (Status.decode format)).and
        ((Fields.withDefault "error" (Decode.optional Decode.text) none).and
          (.withDefault "data" (Decode.optional (Payload.decode format)) none))))).map
    fun ((scanner,category,target),(startTime,endTime,duration),status,error,payload) =>
      ⟨scanner,category,target,startTime,endTime,duration,status,error,payload⟩

def decode (format : Format) : Value → Decoded ScanResult := (fields format).decode format

end ScanResult
end Recon
