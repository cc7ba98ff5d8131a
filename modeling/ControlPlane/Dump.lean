import ControlPlane.Reply
import ControlPlane.Request
import ControlPlane.Telemetry
import ControlPlane.Text.Utf8

/-!
# Full Dumps

A debugging aid: whole requests and replies as log events of a source of their
own. Nothing is left out or made safe. A reply that its own header fields call
binary data is shown in hexadecimal.

## Main definitions

* `Dump.request`: The dump of a request.
* `Dump.reply`: The dump of a reply.
-/

namespace ControlPlane

namespace Dump

open Text (decimal)

/-- The dump of a request as it reaches the dispatcher. -/
def request (head : RequestHead) (body : ByteArray) : Telemetry.Observation :=
  Telemetry.log .trace .dumps
    ("Request from " ++ head.peer.toText ++ ", method: \"" ++ head.method.name ++ "\", URI: \"" ++
      head.target ++ "\", headers: " ++ decimal head.headers.length ++ ", content: " ++
      decimal body.size ++ " bytes\n--- HEADERS ---\n" ++ Http.fieldLines head.headers ++
      "\n--- CONTENT ---\n" ++ Text.ofOctets body.toList)

/-- The reply's own header fields call its body binary data. -/
def isBinary (headers : List Http.Field) : Bool :=
  headers.any fun field =>
    Http.sameName field.1 "Content-Type" && field.2 == "application/octet-stream"

/-- The dump of a reply as it leaves the server. -/
def reply (peer : SocketAddress) (r : Reply) : Telemetry.Observation :=
  let (remark, content) :=
    if isBinary r.headers then (" (binary data, hex encoded)", Text.octetHex r.body.toList)
    else ("", Text.ofOctets r.body.toList)
  Telemetry.log .trace .dumps
    ("Writing reply to " ++ peer.toText ++ ", status: " ++ decimal r.status.code ++
      ", headers: " ++ decimal r.headers.length ++ ", content: " ++ decimal r.body.size ++
      " bytes\n--- HEADERS ---\n" ++ Http.fieldLines r.headers ++ "\n--- CONTENT" ++ remark ++
      " ---\n" ++ content)

end Dump

end ControlPlane
