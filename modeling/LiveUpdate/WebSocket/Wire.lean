import LiveUpdate.Pump.Sink
import LiveUpdate.Text.Base64
import LiveUpdate.WebSocket.Digest
import LiveUpdate.WebSocket.Frame

/-! What the service puts on the wire of a WebSocket session. -/
namespace LiveUpdate

/-- The proof that a client's key was read, for the answer to its handshake. -/
def WebSocket.acceptance (key : List UInt8) : String :=
  let message := key ++ "258EAFA5-E914-47DA-95CA-C5AB0DC85B11".toUTF8.toList
  String.ofList (Text.Base64.encode (WebSocket.Digest.ofMessage message).bytes)

def Outgoing.wire : Outgoing → List UInt8
  | text content => WebSocket.Frame.writeBare .text content.toUTF8.toList
  | pong data => WebSocket.Frame.writeBare .pong data
  | close none => WebSocket.Frame.writeBare .close []
  | close (some code) => WebSocket.Frame.writeBare .close (BigEndian.bytes 2 code)

end LiveUpdate
