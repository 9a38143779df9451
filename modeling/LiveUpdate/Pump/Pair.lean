import LiveUpdate.Pump.Writer
import LiveUpdate.Pump.Reader

/-! A connection over a two-way transport: a writer and a reader under one supervisor. The
supervisor guards the registration. Whichever way the two end, it tells the hub to unregister. -/
namespace LiveUpdate

inductive Stage
  /-- Spawned, but never run: there is nothing to guard the registration yet. -/
  | fresh
  | watching
  /-- The reader has ended; the writer still empties the mailbox. -/
  | draining
  | returned
  | cancelled
  deriving DecidableEq, Repr

/-- Whether the supervisor holds the guard of the registration. -/
def Stage.guards : Stage → Bool
  | watching | draining => true
  | _ => false

structure Pair where
  stage : Stage
  writer : Writer
  reader : Reader

namespace Pair

def connection (p : Pair) : ConnectionId := p.writer.connection

def new (c : ConnectionId) (encode : Encoder) (sink : Sink) : Pair :=
  ⟨.fresh, .new c encode sink .idle, .new c .idle⟩

/-- The supervisor runs for the first time and lets both pumps run. -/
def start (p : Pair) : Pair :=
  match p.stage with
  | .fresh =>
    { stage := .watching
      writer := { p.writer with outcome := p.writer.outcome.start }
      reader := { p.reader with outcome := p.reader.outcome.start } }
  | _ => p

/-- The supervisor learns that the writer has ended. That is the end of the connection: the reader
is cut off if it still reads. -/
def observeWriter (p : Pair) : Pair × List Command × List Entry :=
  if p.stage.guards && !p.writer.outcome.isLive then
    let reader := if p.stage = .watching then p.reader.cancel else p.reader
    ({ p with stage := .returned, reader }, [.unregister p.connection],
      p.writer.outcome.report .writer p.connection ++ [.connectionClosed p.connection])
  else (p, [], [])

/-- The supervisor learns that the reader has ended. The writer stops by itself once the hub has
closed the mailbox. -/
def observeReader (p : Pair) : Pair × List Command × List Entry :=
  if p.stage = .watching && !p.reader.outcome.isLive then
    ({ p with stage := .draining }, [], p.reader.outcome.report .reader p.connection)
  else (p, [], [])

/-- The supervisor is cancelled. If it has run, its guard unregisters the connection and the two
pumps go on by themselves; if it has not, everything it was given is lost. -/
def abort (p : Pair) : Pair × List Command :=
  match p.stage with
  | .fresh => (⟨.cancelled, p.writer.cancel, p.reader.cancel⟩, [])
  | .watching | .draining => ({ p with stage := .cancelled }, [.unregister p.connection])
  | .returned | .cancelled => (p, [])

/-- Supervisor and pumps are cut off at once. -/
def destroy (p : Pair) : Pair × List Command :=
  let commands := if p.stage.guards then [.unregister p.connection] else []
  let stage := if p.stage = .returned then .returned else .cancelled
  (⟨stage, p.writer.cancel, p.reader.cancel⟩, commands)

/-- Whether the supervisor has something to learn. -/
def canGo (p : Pair) : Bool :=
  p.stage.guards && !p.writer.outcome.isLive ||
    p.stage = .watching && !p.reader.outcome.isLive

/-- Whether the supervisor has neither returned nor been cancelled. -/
def isLive (p : Pair) : Bool := p.stage = .fresh || p.stage.guards

/-- Whether the hub has to stay for it. -/
def holds (p : Pair) : Bool := p.isLive || p.reader.outcome.isLive

end Pair
end LiveUpdate
