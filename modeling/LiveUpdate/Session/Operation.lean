import LiveUpdate.Session.Schedule

/-! What can be done to a session from outside. Nothing here lets the session run on by itself,
except where an operation waits for an answer of the hub. -/
namespace LiveUpdate

/-- How reading a mailbox ended: the limit was reached, or no event waits and more may come, or none
will come. -/
inductive Drained
  | more | empty | closed
  deriving DecidableEq, Repr

namespace Session

/-! ### Handles -/

def register (s : Session) (a : Audience) : ConnectionId × Session :=
  let (c, hub) := s.hub.register a
  (c, { s with hub })

def tooManyPermits : String :=
  "a semaphore may not have more than MAX_PERMITS permits (" ++
    Text.naturalText Mailbox.maxCapacity ++ ")"

/-- Registers a connection if a mailbox of the capacity of the hub can be made. -/
def register? (s : Session) (a : Audience) : Except String (ConnectionId × Session) :=
  if s.hub.capacity ≤ Mailbox.maxCapacity then .ok (s.register a) else .error tooManyPermits

/-- Asks the hub to unregister a connection that never was. -/
def unregisterUnknown (s : Session) : Session :=
  let (c, hub) := s.hub.freshConnection
  { s with hub := hub.unregister c }

/-- Builds the event first; one that cannot be built leaves everything as it was. -/
def submitEvent (s : Session) (kind payload : String) (act : Event → Hub → Hub) :
    Option Rejection × Session :=
  match Event.build kind payload with
  | .ok e => (none, s.onHub (act e))
  | .error why => (some why, s)

def send (s : Session) (scope : Scope) (kind payload : String) : Option Rejection × Session :=
  s.submitEvent kind payload fun e hub => hub.send ⟨scope, e⟩

def broadcast (s : Session) (kind payload : String) : Option Rejection × Session :=
  s.send .broadcast kind payload

def sendTo (s : Session) (audiences : List Audience) (kind payload : String) :
    Option Rejection × Session :=
  s.submitEvent kind payload fun e hub => hub.sendTo audiences e

def sendToStudents (s : Session) (students : List StudentId) (kind payload : String) :
    Option Rejection × Session :=
  s.submitEvent kind payload fun e hub => hub.sendToStudents students e

/-- Turns a domain event into messages. What comes before an event that cannot be built is sent. -/
def handle (s : Session) (d : DomainEvent) : Option Rejection × Session :=
  let plan := d.plan
  let hub := (s.hub.log (.handling d.name)).submitAll (plan.messages.map .send)
  let hub := match plan.refusal, d with
    | none, .selectionsChanged students counts =>
      hub.log (.selectionsPublished (DomainEvent.distinctStudents students).length
        (DomainEvent.distinctCounts counts).length)
    | _, _ => hub
  (plan.refusal, { s with hub })

/-- Publishes to the one handler of the session. -/
def publish (s : Session) (d : DomainEvent) : Option Rejection × Session :=
  (s.log (.publishing d.name 1)).handle d

/-- The figures of the hub at this point of its queue; the session settles while it waits. -/
def stats (s : Session) : Stats × Session :=
  let (ticket, hub) := s.hub.askStats
  let s := { s with hub }.settle
  let (stats, hub) := s.hub.answer ticket
  (stats, { s with hub })

def cloneHandle (s : Session) : Session := { s with clones := s.clones + 1 }

def dropClones (s : Session) : Session := { s with clones := 0 }

def dropMain (s : Session) : Session := { s with main := false }

/-! ### Mailboxes -/

/-- Takes events until the limit is reached or none waits. -/
def drain (box : Mailbox) : Nat → List Event × Drained × Mailbox
  | 0 => ([], .more, box)
  | limit + 1 =>
    match box.take with
    | (none, _) => ([], if box.isClosed then .closed else .empty, box)
    | (some e, box) =>
      let (events, state, box) := drain box limit
      (e :: events, state, box)

/-- Receives at most so many events, or all that wait. -/
def receive (s : Session) (c : ConnectionId) (limit : Option Nat) :
    Option (List Event × Drained) × Session :=
  match s.hub.mailbox? c with
  | none => (none, s)
  | some box =>
    let (events, state, box) := drain box (limit.getD (box.waiting.length + 1))
    (some (events, state), s.onHub (·.updateMailbox c fun _ => box))

/-- How many events wait, and whether the mailbox is closed. -/
def queue (s : Session) (c : ConnectionId) : Option (Nat × Bool) :=
  (s.hub.mailbox? c).map fun box => (box.waiting.length, box.isClosed)

def refuseMore (s : Session) (c : ConnectionId) : Session :=
  s.onHub (·.updateMailbox c Mailbox.refuseMore)

/-! ### Guards -/

/-- A guard unregisters its connection when it goes. -/
def addGuard (s : Session) (c : ConnectionId) : Nat × Session :=
  let (i, s) := s.fresh
  (i, { s with guards := s.guards.insert i c })

def dropGuard (s : Session) (i : Nat) : Session :=
  match s.guards.get? i with
  | none => s
  | some c => { s with guards := s.guards.erase i }.unregister c

/-! ### Pumps -/

def runPair (s : Session) (c : ConnectionId) (encode : Encoder) (sink : Sink) : Nat × Session :=
  s.addTask (.paired (.new c encode sink))

def runWriter (s : Session) (c : ConnectionId) (encode : Encoder) (sink : Sink) : Nat × Session :=
  s.addTask (.writing (.new c encode sink .running))

def runReader (s : Session) (c : ConnectionId) : Nat × Session :=
  s.addTask (.reading (.new c .running))

def setReady (s : Session) (i : Nat) (ready : Bool) : Session :=
  { s with tasks := s.tasks.modify i (·.mapSink ({ · with ready })) }

/-- A frame arrives on the inbound side; whether somebody is left to read it. -/
def arrive (s : Session) (i : Nat) (frame : Inbound) : Bool × Session :=
  match s.tasks.get? i with
  | none => (false, s)
  | some task =>
    match task.reader? with
    | none => (false, s)
    | some r => (r.isOpen, { s with tasks := s.tasks.insert i (task.setReader (r.receive frame)) })

def endInput (s : Session) (i : Nat) : Session :=
  match s.tasks.get? i with
  | none => s
  | some task =>
    match task.reader? with
    | none => s
    | some r => { s with tasks := s.tasks.insert i (task.setReader r.endInput) }

/-- A task is told to end; it does so at its next turn. -/
def abort (s : Session) (i : Nat) : Session :=
  match s.tasks.get? i with
  | none => s
  | some task => if task.isLive then { s with doomed := i :: s.doomed } else s

/-! ### Response bodies -/

def openStream (s : Session) (c : ConnectionId) (keepAlive : Option Nat) : Nat × Session :=
  let (i, s) := s.fresh
  (i, { s with streams := s.streams.insert i (.new c keepAlive s.clock) })

/-- The body goes, and with it the registration. -/
def closeStream (s : Session) (i : Nat) : Session :=
  match s.streams.get? i with
  | none => s
  | some stream =>
    ({ s with streams := s.streams.erase i }.abandon stream.connection).unregister stream.connection

/-- The chunks that can be read now, and whether the body ended, or nothing if there is no body. -/
def readStream (s : Session) (i : Nat) (limit : Option Nat) :
    Option (List String × Bool) × Session :=
  match s.streams.get? i with
  | none => (none, s)
  | some stream =>
    match s.hub.mailbox? stream.connection with
    | none => (none, s)
    | some box =>
      let (texts, ended, stream, box) :=
        stream.read box s.clock (limit.getD (box.waiting.length + 2))
      let s := { s with
        hub := s.hub.updateMailbox stream.connection fun _ => box
        streams := s.streams.insert i stream }
      let s := if ended then (s.log (.streamClosed stream.connection)).closeStream i else s
      (some (texts, ended), s)

/-- Time passes, in which everything goes on that can. -/
def advance (s : Session) (milliseconds : Nat) : Session :=
  { s with clock := s.clock + milliseconds }.settle

/-! ### WebSocket sessions -/

/-- Registers a student whose upgrade went through; the greeting is still to be written. -/
def beginGreeting (s : Session) (student : StudentId) : Nat × Session :=
  let (c, s) := s.register (.student student)
  let (i, s) := s.fresh
  (i, { s with greetings := s.greetings.insert i ⟨c, student, none⟩ })

/-- The transport of a session that has been greeted. -/
def greetedSink : Sink := { Sink.polite with sent := [.text (Frame.json .hello)] }

/-- The greeting is written, unless it has met an obstacle, and the pumps take over. -/
def finishGreeting (s : Session) (i : Nat) : Option Nat × Session :=
  match s.greetings.get? i with
  | some ⟨c, student, none⟩ =>
    let s := { s with greetings := s.greetings.erase i }.log (.established student c)
    let (task, s) := s.runPair c .json greetedSink
    (some task, { s with links := s.links.insert task .fresh })
  | _ => (none, s)

/-- The greeting will not be written; the session learns that at its next turn. -/
def obstructGreeting (s : Session) (i : Nat) (why : String) : Session :=
  { s with greetings := s.greetings.modify i fun g => { g with obstacle := some why } }

/-- A transport that has come to its end takes no more frames. -/
def endSink (ending : WebSocket.Ending) (sink : Sink) : Sink :=
  { sink with breaksAfter := some (0, ending.objection), farewell := ending.farewell }

/-- What has arrived on a link reaches the reader, and its replies are sent. -/
def absorb (s : Session) (i : Nat) (arrival : WebSocket.Arrival) : Session :=
  let answer (sink : Sink) : Sink :=
    let sink := { sink with sent := sink.sent ++ arrival.replies }
    match arrival.ending with
    | some ending => endSink ending sink
    | none => sink
  let s := { s with
    links := s.links.insert i arrival.link
    tasks := s.tasks.modify i (·.mapSink answer) }
  arrival.messages.foldl (fun s frame => (s.arrive i frame).2) s

/-- Whether the reader of a task could still read. -/
def readable (s : Session) (i : Nat) : Bool :=
  match (s.tasks.get? i).bind Task.reader? with
  | some r => r.isOpen
  | none => false

/-- Bytes arrive from the client of a WebSocket session. -/
def feed (s : Session) (i : Nat) (bytes : List UInt8) : Session :=
  match s.links.get? i with
  | some link => if s.readable i then s.absorb i (link.feed bytes) else s
  | none => s

/-- The client of a WebSocket session is gone. -/
def lose (s : Session) (i : Nat) : Session :=
  match s.links.get? i with
  | some link => if s.readable i then s.absorb i link.lose else s
  | none => s

/-- What a session writes no longer reaches its client; what the client sends may still arrive. -/
def sever (s : Session) (i : Nat) (why : String) : Session :=
  { s with tasks := s.tasks.modify i (·.mapSink (Sink.sever why)) }

/-- The frames that a session has written since they were last collected, and whether these were
the last. While they are on their way the transport takes no more. -/
def collect (s : Session) (i : Nat) : (List Outgoing × Bool) × Session :=
  match (s.tasks.get? i).bind Task.writer? with
  | none => (([], true), s)
  | some w =>
    let emptied := s.tasks.modify i (·.mapSink fun sink => { sink with sent := [], ready := false })
    ((w.sink.sent, w.sink.dropped), { s with tasks := emptied })

/-! ### Loss of the hub -/

/-- The control loop and all tasks are destroyed while the handles live on. -/
def crash (s : Session) : Session :=
  let s := { s with due := [], resting := false, doomed := [] }.onHub Hub.halt
  let s := s.greetings.values.foldl (fun s g => s.abandon g.connection)
    { s with greetings := .empty }
  s.tasks.keys.foldl (fun s i => s.replaceTask i Task.destroy) s

end Session
end LiveUpdate
