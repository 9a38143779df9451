import LiveUpdate.Mailbox
import LiveUpdate.Pump.Sink

/-! The writer of a connection carries its mailbox to the transport, one frame at a time, until
the mailbox is closed and empty or a write fails. -/
namespace LiveUpdate

structure Writer where
  connection : ConnectionId
  encode : Encoder
  sink : Sink
  /-- An event that has been taken and waits, as a frame, for the transport to be ready. -/
  inHand : Option (Event × String)
  outcome : Outcome

namespace Writer

def new (c : ConnectionId) (encode : Encoder) (sink : Sink) (outcome : Outcome) : Writer :=
  ⟨c, encode, sink, none, outcome⟩

/-- The writer ends, and lets go of its transport. -/
def finish (w : Writer) (sink : Sink) (outcome : Outcome) : Writer :=
  { w with sink := sink.drop, inHand := none, outcome }

def cancel (w : Writer) : Writer := if w.outcome.isLive then w.finish w.sink .cancelled else w

/-- Writes the frame in hand. A failure ends the writer; the transport is not closed then. -/
def writeInHand (w : Writer) (box : Mailbox) (e : Event) (frame : String) :
    Writer × Mailbox × List Entry :=
  match w.sink.write (.text frame) with
  | .ok sink => ({ w with sink, inHand := none }, box, [.wrote e w.connection])
  | .error why =>
    (w.finish w.sink (.stopped (.transport (some why))), box.abandon,
      [.writeFailed w.connection why])

/-- Encodes an event that was just taken. One that cannot be encoded is left out. -/
def encodeTaken (w : Writer) (box : Mailbox) (e : Event) : Writer × Mailbox × List Entry :=
  match w.encode e with
  | .frame frame => ({ w with inHand := some (e, frame) }, box, [])
  | .refused why => (w, box, [.skipped e w.connection why])
  | .crashed words => (w.finish w.sink (.panicked words), box.abandon, [])

/-- The mailbox is closed and empty: the transport is closed in order. -/
def closeTransport (w : Writer) (box : Mailbox) : Writer × Mailbox × List Entry :=
  let writer := match w.sink.close with
    | .ok sink => w.finish sink .finished
    | .error why => w.finish w.sink (.stopped (.transport (some why)))
  (writer, box.abandon, [.queueClosed w.connection])

/-- One step: write what is in hand if the transport is ready, else take the next event, else close.
Without any of these to do the writer waits. -/
def step (w : Writer) (box : Mailbox) : Writer × Mailbox × List Entry :=
  if w.outcome = .running then
    match w.inHand with
    | some (e, frame) => if w.sink.ready then w.writeInHand box e frame else (w, box, [])
    | none =>
      match box.take with
      | (some e, rest) => w.encodeTaken rest e
      | (none, _) => if box.isClosed then w.closeTransport box else (w, box, [])
  else (w, box, [])

/-- Whether a step would do something. -/
def canGo (w : Writer) (box : Mailbox) : Bool :=
  w.outcome = .running &&
    match w.inHand with
    | some _ => w.sink.ready
    | none => !box.waiting.isEmpty || box.isClosed

end Writer
end LiveUpdate
