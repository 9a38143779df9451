import LiveUpdate.Config.Basic

/-! The logger: which records are shown, on which of the two outputs, and how. -/
namespace LiveUpdate

/-- Something to be logged. The target names the part of the program that speaks. -/
structure Record where
  level : Level
  target : String
  message : String
  deriving DecidableEq, Repr

inductive Output
  | out | err
  deriving DecidableEq, Repr

structure Logger where
  threshold : Threshold
  deriving DecidableEq, Repr

namespace Logger

/-- The transports underneath, which are silent unless everything is shown. -/
def stackTargets : List String :=
  ["tower", "tracing", "hyper", "axum", "tungstenite", "tokio_tungstenite"]

def silences (logger : Logger) (target : String) : Bool :=
  logger.threshold ≠ some .trace &&
    stackTargets.any fun stack => stack.toList.isPrefixOf target.toList

def shows (logger : Logger) (r : Record) : Bool :=
  logger.threshold.admits r.level && !logger.silences r.target

/-- Errors go to the second output. -/
def output (r : Record) : Output := if r.level = .error then .err else .out

/-- From the level of debugging on, a line names thread and target, and at the last level also the
place in the source, which is not known here. -/
def render (thread : Nat) (r : Record) : String :=
  let origin :=
    if Level.debug.rank ≤ r.level.rank then
      "(" ++ Text.naturalText thread ++ ") " ++ r.target ++ ": "
    else ""
  let place := if r.level = .trace then "[<unknown>:<unknown>] " else ""
  "[" ++ r.level.name ++ "] " ++ origin ++ place ++ r.message

/-- The text for a record, and where it goes. -/
def write? (logger : Logger) (thread : Nat) (r : Record) : Option (Output × String) :=
  if logger.shows r then some (output r, render thread r) else none

end Logger

/-- The part of the program that makes an entry. -/
def Entry.target : Entry → String
  | settings .. => "service"
  | publishing .. => "events"
  | starting _ | identityTrusted | identityUntrusted | serverStopped _ => "course_selection"
  | resolved _ | adminRejected .. | studentRejected .. | adminStream _ | studentStream _
  | upgrading _ | upgradeFailed .. | greetingFailed .. | established .. | broadcasting _
  | internalError _ | originIgnored .. | serving _ => "web"
  | _ => "hub"

def Entry.record (name : ConnectionId → String) (entry : Entry) : Record :=
  ⟨entry.level, entry.target, entry.message name⟩

/-- The loggers of a process: the first that is installed stays. -/
def Logger.install (current : Option Logger) (threshold : Threshold) : Except String Logger :=
  match current with
  | none => .ok ⟨threshold⟩
  | some _ =>
    .error "attempted to set a logger after the logging system was already initialized"

end LiveUpdate
