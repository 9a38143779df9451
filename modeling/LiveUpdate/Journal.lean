import LiveUpdate.Registry
import LiveUpdate.Identity
import LiveUpdate.DomainEvent
import LiveUpdate.Fault

/-! What the service reports while it works. An entry keeps what it is about; its level and its
words are functions of it, so that laws can speak of the entries themselves. -/
namespace LiveUpdate

inductive Level
  | error | warn | info | debug | trace
  deriving DecidableEq, Repr

def Level.name : Level → String
  | error => "ERROR"
  | warn => "WARN"
  | info => "INFO"
  | debug => "DEBUG"
  | trace => "TRACE"

/-- Less is more urgent. -/
def Level.rank : Level → Nat
  | error => 1
  | warn => 2
  | info => 3
  | debug => 4
  | trace => 5

/-- The two directions of a connection that runs over a transport. -/
inductive Side
  | writer | reader
  deriving DecidableEq, Repr

def Side.name : Side → String
  | writer => "writer"
  | reader => "reader"

inductive Entry
  -- the hub
  | settings (capacity : Nat) (transport : String) (keepAliveSeconds : Nat)
  | started (capacity : Nat)
  | stopped (connections : Nat)
  | discarded
  | registered (c : ConnectionId) (a : Audience)
  | unregistered (c : ConnectionId) (a : Audience)
  | alreadyUnregistered (c : ConnectionId)
  | droppedFor (e : Event) (c : ConnectionId) (a : Audience)
  | stoppedReading (c : ConnectionId)
  | fannedOut (m : Message) (delivered dropped : Nat)
  | skippedNobody (e : Event)
  -- domain events
  | publishing (name : String) (handlers : Nat)
  | handling (name : String)
  | selectionsPublished (students counts : Nat)
  -- connections
  | wrote (e : Event) (c : ConnectionId)
  | skipped (e : Event) (c : ConnectionId) (why : Fault)
  | writeFailed (c : ConnectionId) (why : String)
  | queueClosed (c : ConnectionId)
  | closeFrame (c : ConnectionId)
  | discardedInbound (c : ConnectionId)
  | readFailed (c : ConnectionId) (why : String)
  | pumpFinished (side : Side) (c : ConnectionId)
  | pumpStopped (side : Side) (c : ConnectionId) (why : Fault)
  | pumpPanicked (side : Side) (c : ConnectionId) (why : String)
  | connectionClosed (c : ConnectionId)
  | streamClosed (c : ConnectionId)
  -- requests
  | resolved (identity : Identity)
  | adminRejected (name uri : String)
  | studentRejected (id : StudentId) (uri : String)
  | adminStream (name : String)
  | studentStream (id : StudentId)
  | upgrading (id : StudentId)
  | upgradeFailed (id : StudentId) (why : String)
  | greetingFailed (id : StudentId) (c : ConnectionId) (why : String)
  | established (id : StudentId) (c : ConnectionId)
  | broadcasting (admin : String)
  | internalError (cause : String)
  -- the server
  | starting (environment : String)
  | identityTrusted
  | identityUntrusted
  | originIgnored (origin why : String)
  | serving (address : String)
  | serverStopped (why : String)
  deriving DecidableEq, Repr

namespace Entry

def level : Entry → Level
  | discarded | skipped .. | pumpPanicked .. | internalError _ | serverStopped _ => .error
  | droppedFor .. | pumpStopped .. | upgradeFailed .. | greetingFailed .. | identityUntrusted
  | originIgnored .. => .warn
  | settings .. | started _ | stopped _ | registered .. | unregistered .. | connectionClosed _
  | established .. | broadcasting _ | starting _ | identityTrusted | serving _ => .info
  | stoppedReading _ | fannedOut .. | publishing .. | handling _ | selectionsPublished ..
  | writeFailed .. | queueClosed _ | closeFrame _ | readFailed .. | pumpFinished .. | streamClosed _
  | adminRejected .. | studentRejected .. | adminStream _ | studentStream _ | upgrading _ => .debug
  | alreadyUnregistered _ | skippedNobody _ | wrote .. | discardedInbound _ | resolved _ => .trace

/-- The connection that an entry is about, if it names one. -/
def connection? : Entry → Option ConnectionId
  | registered c _ | unregistered c _ | alreadyUnregistered c | droppedFor _ c _ | stoppedReading c
  | wrote _ c | skipped _ c _ | writeFailed c _ | queueClosed c | closeFrame c | discardedInbound c
  | readFailed c _ | pumpFinished _ c | pumpStopped _ c _ | pumpPanicked _ c _ | connectionClosed c
  | streamClosed c | greetingFailed _ c _ | established _ c => some c
  | _ => none

def audienced (name : ConnectionId → String) (c : ConnectionId) (a : Audience) : String :=
  name c ++ " (" ++ a.display ++ ")"

/-- The words of an entry, given a name for each connection. -/
def message (name : ConnectionId → String) : Entry → String
  | settings capacity transport seconds =>
    "Live updates: queue capacity " ++ Text.naturalText capacity ++
      ", student transport " ++ transport ++
      ", SSE keep-alive " ++ Text.naturalText seconds ++ "s"
  | started capacity =>
    "Live-update hub started (queue capacity " ++ Text.naturalText capacity ++ ")"
  | stopped n => "Live-update hub stopped; releasing " ++ Text.naturalText n ++ " connection(s)"
  | discarded => "Live-update hub is no longer running; command discarded"
  | registered c a => "Registered live connection " ++ audienced name c a
  | unregistered c a => "Unregistered live connection " ++ audienced name c a
  | alreadyUnregistered c => "Connection " ++ name c ++ " was already unregistered"
  | droppedFor e c a =>
    "Dropping event " ++ e.display ++ " for slow connection " ++ audienced name c a
  | stoppedReading c =>
    "Connection " ++ name c ++ " already stopped reading; awaiting unregistration"
  | fannedOut m delivered dropped =>
    "Fan-out of " ++ m.event.display ++ " (" ++ m.scope.inspect ++ "): " ++
      Text.naturalText delivered ++
      " delivered, " ++ Text.naturalText dropped ++ " dropped"
  | skippedNobody e => "Skipping " ++ e.display ++ ": empty audience"
  | publishing event handlers =>
    "Publishing " ++ event ++ " to " ++ Text.naturalText handlers ++ " handler(s)"
  | handling event => "Handling " ++ event ++ " event"
  | selectionsPublished students counts =>
    "Published selection change for " ++ Text.naturalText students ++ " student(s) and " ++
      Text.naturalText counts ++
      " course count(s)"
  | wrote e c => "Wrote " ++ e.display ++ " to connection " ++ name c
  | skipped e c why =>
    "Skipping event " ++ e.display ++ " for connection " ++ name c ++ ": " ++ why.message
  | writeFailed c why => "Write to connection " ++ name c ++ " failed: " ++ why
  | queueClosed c => "Queue for connection " ++ name c ++ " closed; closing transport"
  | closeFrame c => "Connection " ++ name c ++ " sent close frame"
  | discardedInbound c => "Discarding inbound frame on connection " ++ name c
  | readFailed c why => "Read from connection " ++ name c ++ " failed: " ++ why
  | pumpFinished side c => side.name ++ " pump for connection " ++ name c ++ " finished"
  | pumpStopped side c why =>
    side.name ++ " pump for connection " ++ name c ++ " stopped: " ++ why.message
  | pumpPanicked side c why =>
    side.name ++ " pump for connection " ++ name c ++ " panicked: " ++ why
  | connectionClosed c => "Live connection " ++ name c ++ " closed"
  | streamClosed c => "Queue for SSE connection " ++ name c ++ " closed"
  | resolved identity => "Resolved identity " ++ identity.inspect
  | adminRejected admin uri =>
    "Admin " ++ admin ++ " rejected from student-only route " ++ uri
  | studentRejected id uri =>
    "Student " ++ Text.integerText id ++ " rejected from admin-only route " ++ uri
  | adminStream admin => "Establishing SSE connection for admin " ++ admin
  | studentStream id => "Establishing SSE connection for student " ++ Text.integerText id
  | upgrading id => "Upgrading live-update WebSocket for student " ++ Text.integerText id
  | upgradeFailed id why =>
    "WebSocket upgrade for student " ++ Text.integerText id ++ " failed: " ++ why
  | greetingFailed id c why =>
    "Failed to greet student " ++ Text.integerText id ++ " on connection " ++ name c ++ ": " ++ why
  | established id c =>
    "WebSocket connection " ++ name c ++ " established for student " ++ Text.integerText id
  | broadcasting admin => "Admin " ++ admin ++ " is broadcasting a notification"
  | internalError cause => "Internal error: " ++ cause
  | starting environment =>
    "Starting course selection live-update service (" ++ environment ++ " environment)"
  | identityTrusted => "Trusting identity headers from the authenticating proxy"
  | identityUntrusted =>
    "Identity headers are not trusted; live-update endpoints will answer 401"
  | originIgnored origin why => "Ignoring invalid CORS origin " ++ origin ++ ": " ++ why
  | serving address => "Server starting... listening for connections on http://" ++ address
  | serverStopped why => "Server stopped: " ++ why

/-- Level and words on one line. -/
def line (name : ConnectionId → String) (entry : Entry) : String :=
  entry.level.name ++ " " ++ entry.message name

end Entry

end LiveUpdate
