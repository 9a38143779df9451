import LiveUpdate.Frame.Json
import LiveUpdate.Frame.Sse
import LiveUpdate.Journal

/-! The sending half of a transport, as seen by the writer of a connection. -/
namespace LiveUpdate

/-- What travels to a client. -/
inductive Outgoing
  | text (content : String)
  | pong (data : List UInt8)
  | close (code : Option Nat)
  deriving DecidableEq, Repr

structure Sink where
  /-- Whether the transport takes a frame at present. -/
  ready : Bool
  /-- After so many frames every write fails, for this reason. -/
  breaksAfter : Option (Nat × String)
  /-- Closing fails for this reason. -/
  closeFails : Option String
  /-- What closing still has to tell the client. -/
  farewell : Option Outgoing
  sent : List Outgoing
  closed : Bool
  dropped : Bool
  deriving DecidableEq, Repr

namespace Sink

/-- A transport that takes everything and says nothing of its own. -/
def plain : Sink := ⟨true, none, none, none, [], false, false⟩

/-- A transport that takes its leave with a close frame. -/
def polite : Sink := { plain with farewell := some (.close none) }

def write (sink : Sink) (frame : Outgoing) : Except String Sink :=
  match sink.breaksAfter with
  | some (limit, why) =>
    if limit ≤ sink.sent.length then .error why else .ok { sink with sent := sink.sent ++ [frame] }
  | none => .ok { sink with sent := sink.sent ++ [frame] }

def close (sink : Sink) : Except String Sink :=
  match sink.closeFails with
  | some why => .error why
  | none =>
    .ok { sink with sent := sink.sent ++ sink.farewell.toList, farewell := none, closed := true }

def drop (sink : Sink) : Sink := { sink with dropped := true }

/-- The transport breaks: from now on every write fails for this reason, and so does closing. -/
def sever (why : String) (sink : Sink) : Sink :=
  { sink with breaksAfter := some (0, why), closeFails := some why }

end Sink

/-- The result of turning an event into a frame. -/
inductive Encoding
  | frame (content : String)
  | refused (why : Fault)
  /-- The encoder itself breaks down, and the pump with it. -/
  | crashed (words : String)
  deriving DecidableEq, Repr

abbrev Encoder := Event → Encoding

namespace Encoder

def json : Encoder := fun e => .frame (Frame.json e)

def sse : Encoder := fun e => .frame (Frame.sse e)

end Encoder

/-- How far a pump has come. -/
inductive Outcome
  | idle
  | running
  | finished
  | stopped (why : Fault)
  | panicked (words : String)
  | cancelled
  deriving DecidableEq, Repr

namespace Outcome

def isLive : Outcome → Bool
  | idle | running => true
  | _ => false

def start : Outcome → Outcome
  | idle => running
  | o => o

/-- What a supervisor reports about a pump that has ended. -/
def report (side : Side) (c : ConnectionId) : Outcome → List Entry
  | finished => [.pumpFinished side c]
  | stopped why => [.pumpStopped side c why]
  | panicked words => [.pumpPanicked side c words]
  | _ => []

end Outcome
end LiveUpdate
