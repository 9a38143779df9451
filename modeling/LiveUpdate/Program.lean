import LiveUpdate.Dotenv
import LiveUpdate.Logger
import LiveUpdate.Server

/-! The program as a whole: what an invocation leads to before the first request. -/
namespace LiveUpdate

structure Invocation where
  arguments : List (List UInt8)
  environment : Variables
  /-- What the file of settings holds. -/
  settings : List Char
  deriving DecidableEq, Repr

namespace Invocation

/-- The command line counts first, then the environment, then the file. -/
def config (i : Invocation) : Except UsageError Config :=
  Config.read i.arguments (Dotenv.load i.environment i.settings)

end Invocation

namespace Program

/-- The first entries of a run. -/
def announcement (config : Config) : List Entry :=
  [.starting config.environment.display,
    if config.trustIdentity then .identityTrusted else .identityUntrusted]

/-- A run that got as far as a configuration. -/
structure Run where
  config : Config
  /-- The hub with all that is reported up to the launch. -/
  session : Session
  launch : Launch

/-- Starts the hub and then the server. A configuration that is read never asks for a hub without
capacity. -/
def start (network : Network) (config : Config) : Except String Run := do
  let session ← Session.ofConfig? config
  let (entries, launch) := Server.launch network config
  let closing := match launch with
    | .unbound why => [Entry.serverStopped why.message]
    | _ => []
  let journal := announcement config ++ session.hub.journal ++ entries ++ closing
  return { config, launch, session := session.onHub fun hub => { hub with journal } }

/-- The status with which a run ends, if it ends by itself. -/
def exitCode? : Launch → Option Nat
  | .running _ => none
  | .unbound _ => some 1
  | .panicked _ => some 101

/-- The lines that a run shows, given a name for each connection. -/
def Run.lines (run : Run) (name : ConnectionId → String) : List (Output × String) :=
  run.session.hub.journal.filterMap fun entry =>
    (Logger.mk run.config.threshold).write? 1 (entry.record name)

/-- The name of the program and its version. -/
def version : String := "service 0.1.0"

/-- One line for each option. -/
def help : String :=
  let line (s : Setting) : String :=
    let short := match s.shortName? with
      | some letter => String.ofList ['-', letter, ',', ' ']
      | none => "    "
    "  " ++ short ++ s.display ++ "\n          " ++ s.about ++ " [env: " ++ s.variableName ++ "]\n"
  "Usage: service [OPTIONS]\n\nOptions:\n" ++ String.join (Setting.all.map line) ++
    "  -h, --help\n          Show this text\n  -V, --version\n          Show the version\n"

end Program
end LiveUpdate
