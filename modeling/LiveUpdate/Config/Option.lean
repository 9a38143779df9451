import LiveUpdate.Config.Basic
import LiveUpdate.Text.Utf8
import LiveUpdate.Text.Numeral

/-! The options: their names on the command line and in the environment, and what their values may
be. Values arrive as bytes, since neither source promises text. -/
namespace LiveUpdate

inductive Setting
  | allowedOrigins
  | interface
  | port
  | threshold
  | environment
  | queueCapacity
  | keepAliveSeconds
  | studentTransport
  | trustIdentity
  deriving DecidableEq, Repr

namespace Setting

/-- In the order in which the environment is consulted. -/
def all : List Setting :=
  [allowedOrigins, interface, port, threshold, environment, queueCapacity, keepAliveSeconds,
    studentTransport, trustIdentity]

def longName : Setting → String
  | allowedOrigins => "allowed-origins"
  | interface => "interface"
  | port => "port"
  | threshold => "log-level-filter"
  | environment => "runtime-env"
  | queueCapacity => "subscriber-queue-capacity"
  | keepAliveSeconds => "sse-keep-alive-secs"
  | studentTransport => "student-transport"
  | trustIdentity => "trust-identity-headers"

def shortName? : Setting → Option Char
  | interface => some 'i'
  | port => some 'p'
  | threshold => some 'l'
  | environment => some 'r'
  | _ => none

/-- The name of its variable in the environment. -/
def variableName : Setting → String
  | allowedOrigins => "ALLOWED_ORIGINS"
  | interface => "INTERFACE"
  | port => "PORT"
  | threshold => "LOG_LEVEL_FILTER"
  | environment => "RUNTIME_ENV"
  | queueCapacity => "SUBSCRIBER_QUEUE_CAPACITY"
  | keepAliveSeconds => "SSE_KEEP_ALIVE_SECS"
  | studentTransport => "STUDENT_TRANSPORT"
  | trustIdentity => "TRUST_IDENTITY_HEADERS"

/-- Whether the option stands alone on the command line. -/
def isFlag : Setting → Bool
  | trustIdentity => true
  | _ => false

/-- How messages name the option. -/
def display (s : Setting) : String :=
  if s.isFlag then "--" ++ s.longName else "--" ++ s.longName ++ " <" ++ s.variableName ++ ">"

def about : Setting → String
  | allowedOrigins => "Origins that may read the answers, separated by commas"
  | interface => "The interface to listen on"
  | port => "The port to listen on"
  | threshold => "The most detailed level that is logged: OFF, ERROR, WARN, INFO, DEBUG or TRACE"
  | environment => "The environment: development, production or staging"
  | queueCapacity => "How many events may wait for each connection"
  | keepAliveSeconds => "Seconds of silence before a comment on an event stream, 1 to 3600"
  | studentTransport => "The transport for students: websocket or sse"
  | trustIdentity => "Take the identity of a request from its headers"

end Setting

/-- Why a command line, or the environment, gives no configuration. -/
inductive UsageError
  /-- Not a number, or not one in the range of the option. -/
  | badNumber (s : Setting) (value : String)
  /-- Not one of the values that the option knows. -/
  | badChoice (s : Setting) (value : String)
  | missingValue (s : Setting)
  | unknownArgument (argument : String)
  | repeated (s : Setting)
  /-- A value for an option that takes none. -/
  | unwantedValue (option : String) (value : String)
  | notText
  | helpRequested
  | versionRequested
  deriving DecidableEq, Repr

def UsageError.exitCode : UsageError → Nat
  | helpRequested | versionRequested => 0
  | _ => 2

def UsageError.message : UsageError → String
  | badNumber s value => "invalid value '" ++ value ++ "' for '" ++ s.display ++ "'"
  | badChoice s value => "invalid value '" ++ value ++ "' for '" ++ s.display ++ "'"
  | missingValue s => "a value is required for '" ++ s.display ++ "' but none was supplied"
  | unknownArgument argument => "unexpected argument '" ++ argument ++ "' found"
  | repeated s => "the argument '" ++ s.display ++ "' cannot be used multiple times"
  | unwantedValue option value => "unexpected value '" ++ value ++ "' for '" ++ option ++ "' found"
  | notText => "invalid UTF-8 was detected in one or more arguments"
  | helpRequested => "help was asked for"
  | versionRequested => "the version was asked for"

/-- What the sources have settled so far. -/
structure Choices where
  allowedOrigins : Option (List String)
  interface : Option String
  port : Option Nat
  threshold : Option Threshold
  environment : Option Environment
  queueCapacity : Option Nat
  keepAliveSeconds : Option Nat
  studentTransport : Option Transport
  trustIdentity : Option Bool
  deriving DecidableEq, Repr

namespace Choices

def none : Choices := ⟨.none, .none, .none, .none, .none, .none, .none, .none, .none⟩

def has (c : Choices) : Setting → Bool
  | .allowedOrigins => c.allowedOrigins.isSome
  | .interface => c.interface.isSome
  | .port => c.port.isSome
  | .threshold => c.threshold.isSome
  | .environment => c.environment.isSome
  | .queueCapacity => c.queueCapacity.isSome
  | .keepAliveSeconds => c.keepAliveSeconds.isSome
  | .studentTransport => c.studentTransport.isSome
  | .trustIdentity => c.trustIdentity.isSome

def text (value : List UInt8) : Except UsageError String :=
  match Text.Utf8.decode value with
  | .ok chars => .ok (String.ofList chars)
  | .error _ => .error .notText

/-- The values between the commas, empty ones included. -/
def splitCommas : List UInt8 → List (List UInt8)
  | [] => [[]]
  | b :: rest =>
    if b = 0x2C then [] :: splitCommas rest
    else match splitCommas rest with
      | [] => [[b]]
      | first :: others => (b :: first) :: others

/-- An integer within bounds, in any spelling that denotes it. -/
def number (s : Setting) (low high : Nat) (value : List UInt8) : Except UsageError Nat := do
  let text ← text value
  match Text.readInteger? text.toList with
  | some (.ofNat n) => if low ≤ n ∧ n ≤ high then .ok n else .error (.badNumber s text)
  | _ => .error (.badNumber s text)

/-- One of a list of names. -/
def choice {α : Type} (s : Setting) (named : List (String × α)) (value : List UInt8) :
    Except UsageError α := do
  let text ← text value
  match named.lookup text with
  | some a => .ok a
  | .none => .error (.badChoice s text)

def thresholdNames : List (String × Threshold) := Threshold.all.map fun t => (t.display, t)

def environmentNames : List (String × Environment) :=
  Environment.all.flatMap fun e => [(e.display.toUpper, e), (e.display, e)]

def transportNames : List (String × Transport) :=
  Transport.all.flatMap fun t => [(t.display.toUpper, t), (t.display, t)]

/-- A truth value. What is no text is none either, rather than a fault of its own. -/
def truth (s : Setting) (value : List UInt8) : Except UsageError Bool :=
  if value = Text.Utf8.encode "true".toList then .ok true
  else if value = Text.Utf8.encode "false".toList then .ok false
  else .error (.badChoice s (String.ofList (Text.Utf8.decodeLossy value)))

/-- Settles an option by one value. Origins given in several places add up. -/
def assign (c : Choices) (s : Setting) (value : List UInt8) : Except UsageError Choices :=
  match s with
  | .allowedOrigins => do
    let origins ← (splitCommas value).mapM text
    return { c with allowedOrigins := some (c.allowedOrigins.getD [] ++ origins) }
  | .interface => do return { c with interface := some (← text value) }
  | .port => do return { c with port := some (← number s 0 65535 value) }
  | .threshold => do return { c with threshold := some (← choice s thresholdNames value) }
  | .environment => do return { c with environment := some (← choice s environmentNames value) }
  | .queueCapacity => do
    return { c with queueCapacity := some (← number s 1 4294967295 value) }
  | .keepAliveSeconds => do return { c with keepAliveSeconds := some (← number s 1 3600 value) }
  | .studentTransport => do
    return { c with studentTransport := some (← choice s transportNames value) }
  | .trustIdentity => do return { c with trustIdentity := some (← truth s value) }

/-- What is still open takes its standard value. -/
def complete (c : Choices) : Config :=
  let standard := Config.standard
  { allowedOrigins := c.allowedOrigins.getD standard.allowedOrigins
    interface := c.interface.getD standard.interface
    port := c.port.getD standard.port
    threshold := c.threshold.getD standard.threshold
    environment := c.environment.getD standard.environment
    queueCapacity := c.queueCapacity.getD standard.queueCapacity
    keepAliveSeconds := c.keepAliveSeconds.getD standard.keepAliveSeconds
    studentTransport := c.studentTransport.getD standard.studentTransport
    trustIdentity := c.trustIdentity.getD standard.trustIdentity }

end Choices
end LiveUpdate
