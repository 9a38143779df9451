import LiveUpdate.Journal
import LiveUpdate.Text.Lowercase

/-! What can be configured, and the texts by which the choices are named. -/
namespace LiveUpdate

inductive Environment
  | development | production | staging
  deriving DecidableEq, Repr

namespace Environment

def display : Environment → String
  | development => "development"
  | production => "production"
  | staging => "staging"

def all : List Environment := [development, production, staging]

/-- Reads a name in any mixture of cases. -/
def ofText? (s : String) : Option Environment :=
  all.find? fun e => Text.lowercase s.toList = e.display.toList

end Environment

/-- The transport that the endpoint for students speaks. -/
inductive Transport
  | webSocket | sse
  deriving DecidableEq, Repr

namespace Transport

def display : Transport → String
  | webSocket => "websocket"
  | sse => "sse"

def all : List Transport := [webSocket, sse]

/-- Reads a name in any mixture of cases. -/
def ofText? (s : String) : Option Transport :=
  all.find? fun t => Text.lowercase s.toList = t.display.toList

end Transport

/-- The most detailed level that is still shown; nothing at all without one. -/
abbrev Threshold := Option Level

namespace Threshold

def display : Threshold → String
  | none => "OFF"
  | some level => level.name

def all : List Threshold :=
  [none, some .error, some .warn, some .info, some .debug, some .trace]

def admits (threshold : Threshold) (level : Level) : Bool :=
  match threshold with
  | none => false
  | some limit => level.rank ≤ limit.rank

end Threshold

structure Config where
  allowedOrigins : List String
  interface : String
  port : Nat
  threshold : Threshold
  environment : Environment
  queueCapacity : Nat
  keepAliveSeconds : Nat
  studentTransport : Transport
  trustIdentity : Bool
  deriving DecidableEq, Repr

def Config.standard : Config where
  allowedOrigins := ["http://localhost:3000", "https://localhost:3000"]
  interface := "127.0.0.1"
  port := 4000
  threshold := some .info
  environment := .development
  queueCapacity := 256
  keepAliveSeconds := 15
  studentTransport := .webSocket
  trustIdentity := false

end LiveUpdate
