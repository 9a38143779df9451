import LiveUpdate.Hub
import LiveUpdate.Pump.Sink

/-! The reader of a connection discards what the client sends and watches for its end, of which it
tells the hub. -/
namespace LiveUpdate

inductive Inbound
  | text
  | binary
  | ping
  | pong
  | close
  | failure (why : String)
  deriving DecidableEq, Repr

/-- Whether nothing is read after this. -/
def Inbound.isTerminal : Inbound → Bool
  | close | failure _ => true
  | _ => false

structure Reader where
  connection : ConnectionId
  arrived : List Inbound
  /-- Nothing more will arrive. -/
  ended : Bool
  outcome : Outcome
  deriving DecidableEq, Repr

namespace Reader

def new (c : ConnectionId) (outcome : Outcome) : Reader := ⟨c, [], false, outcome⟩

def cancel (r : Reader) : Reader :=
  if r.outcome.isLive then { r with outcome := .cancelled } else r

/-- Whether a frame that arrives now could still be read. -/
def isOpen (r : Reader) : Bool := r.outcome.isLive && !r.ended

def receive (r : Reader) (frame : Inbound) : Reader :=
  if r.isOpen then { r with arrived := r.arrived ++ [frame] } else r

def endInput (r : Reader) : Reader := { r with ended := true }

/-- One step: the next frame that arrived, or the end of the input. -/
def step (r : Reader) : Reader × List Command × List Entry :=
  if r.outcome = .running then
    match r.arrived with
    | [] =>
      if r.ended then ({ r with outcome := .finished }, [.unregister r.connection], [])
      else (r, [], [])
    | .close :: rest =>
      ({ r with arrived := rest, outcome := .finished }, [.unregister r.connection],
        [.closeFrame r.connection])
    | .failure why :: rest =>
      ({ r with arrived := rest, outcome := .stopped (.transport (some why)) },
        [.unregister r.connection], [.readFailed r.connection why])
    | _ :: rest => ({ r with arrived := rest }, [], [.discardedInbound r.connection])
  else (r, [], [])

/-- Whether a step would do something. -/
def canGo (r : Reader) : Bool := r.outcome = .running && (!r.arrived.isEmpty || r.ended)

end Reader
end LiveUpdate
