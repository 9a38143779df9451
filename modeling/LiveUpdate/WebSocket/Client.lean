import LiveUpdate.Session.Operation

/-! The other end of a WebSocket session: what a client that talks to it gets to see. -/
namespace LiveUpdate.WebSocket

structure Client where
  /-- The task that serves the session. -/
  task : Nat
  /-- How many frames have been read. -/
  seen : Nat
  /-- Whether the client has begun the closing handshake. -/
  closing : Bool
  ended : Bool
  deriving DecidableEq, Repr

/-- What a read yields: frames, perhaps a failure after them, and whether that was all. -/
structure Received where
  frames : List Outgoing
  failed : Bool
  ended : Bool
  deriving DecidableEq, Repr

namespace Client

def new (task : Nat) : Client := ⟨task, 0, false, false⟩

def pair? (client : Client) (s : Session) : Option Pair :=
  (s.tasks.get? client.task).bind Task.pair?

/-- Whether the service still holds its end. -/
def isServed (client : Client) (s : Session) : Bool :=
  match client.pair? s with
  | some p => !p.writer.sink.dropped || p.reader.outcome.isLive
  | none => false

/-- Sends a message; it arrives unless the client has closed or nobody is there. -/
def send (client : Client) (s : Session) (opcode : Opcode) (payload : List UInt8) :
    Bool × Client × Session :=
  if client.closing || client.ended || !client.isServed s then (false, client, s)
  else
    (true, { client with closing := opcode = .close },
      s.feed client.task (Frame.write opcode payload))

/-- Puts bytes on the wire, whatever they mean; to put none there always works. -/
def sendRaw (client : Client) (s : Session) (bytes : List UInt8) : Bool × Session :=
  if bytes = [] then (true, s)
  else if client.ended || !client.isServed s then (false, s)
  else (true, s.feed client.task bytes)

def isClose : Outgoing → Bool
  | .close _ => true
  | _ => false

/-- Reads all there is. Once the service has let go, a client takes that for a failure, unless it
began to close and was answered. -/
def read (client : Client) (s : Session) : Received × Client :=
  if client.ended then (⟨[], false, true⟩, client)
  else
    let sent := match client.pair? s with
      | some p => p.writer.sink.sent
      | none => []
    let ended := !client.isServed s
    let agreed := client.closing && sent.any isClose
    (⟨sent.drop client.seen, ended && !agreed, ended⟩, { client with seen := sent.length, ended })

end Client
end LiveUpdate.WebSocket
