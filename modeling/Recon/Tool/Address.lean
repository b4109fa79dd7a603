import Recon.Text.Decimal
import Recon.Text.Lines
import Recon.Text.Lowercase

/-! Whom a scan is aimed at. A target is spelled by users; `Target.host` is the bare host in it: trimmed, in lower
case, without scheme and without path. A host that is an address already needs no one to be asked for it. -/
namespace Recon

namespace Target

/-- Drops a leading `http://` or else a leading `https://`. -/
def dropScheme (cs : List Char) : List Char :=
  match Text.after? ['h','t','t','p',':','/','/'] cs with
  | some rest => rest
  | none => (Text.after? ['h','t','t','p','s',':','/','/'] cs).getD cs

def hostChars (cs : List Char) : List Char :=
  (dropScheme (Text.lower (Text.trim cs))).takeWhile (· != '/')

/-- The bare host of a target. -/
def host (target : String) : String := String.ofList (hostChars target.toList)

/-- A host under both schemes. -/
def bothSchemes (host : String) : List String := ["http://" ++ host,"https://" ++ host]

/-- The bare host of a target under both schemes, nothing when there is none. -/
def urls (target : String) : List String :=
  if host target = "" then [] else bothSchemes (host target)

/-- Letters, digits, dots and dashes, with a dot inside but neither first nor last, in 253 bytes. -/
def isDomain (s : String) : Bool :=
  s != "" && s.utf8ByteSize ≤ 253 && s.toList.contains '.' && s.toList.head? != some '.'
    && s.toList.getLast? != some '.' && s.toList.all fun c => c.isAlphanum || c == '.' || c == '-'

end Target

namespace Address

/-- A number up to 255 without leading zeros. -/
def isOctet (cs : List Char) : Bool :=
  (Text.readBelow? 256 cs).isSome && (cs.length == 1 || cs.head? != some '0')

/-- Four numbers up to 255 with dots between them. -/
def isIPv4 (host : String) : Bool :=
  let parts := Text.pieces (· == '.') host.toList
  parts.length == 4 && parts.all isOctet

/-- The addresses of a host without asking anyone: itself if it is one. -/
def literal (host : String) : List String := if isIPv4 host then [host] else []

end Address
end Recon
