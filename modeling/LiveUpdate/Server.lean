import LiveUpdate.Session.Start
import LiveUpdate.Web.Cors

/-! Opening the server. Whether an address can be bound is for the network to say, which is a
parameter here. -/
namespace LiveUpdate

/-- Why an address cannot be bound. -/
inductive BindFailure
  | permissionDenied
  | addressInUse
  | addressNotAvailable
  | other (words : String)
  deriving DecidableEq, Repr

def BindFailure.message : BindFailure → String
  | permissionDenied => "Permission denied (os error 13)"
  | addressInUse => "Address already in use (os error 98)"
  | addressNotAvailable => "Cannot assign requested address (os error 99)"
  | other words => words

/-- What binding an interface and a port leads to; `none` if all is well. -/
abbrev Network := String → Nat → Option BindFailure

inductive Launch
  | running (cors : Web.Cors)
  | unbound (why : BindFailure)
  | panicked (words : String)
  deriving DecidableEq, Repr

namespace Server

def address (config : Config) : String :=
  config.interface ++ ":" ++ Text.naturalText config.port

/-- Opens the server of a configuration, and says what is reported meanwhile. -/
def launch (network : Network) (config : Config) : List Entry × Launch :=
  let ignored := Web.Cors.report config.allowedOrigins
  match Web.Cors.ofOrigins? config.allowedOrigins with
  | .error words => (ignored, .panicked words)
  | .ok cors =>
    match network config.interface config.port with
    | some why => (ignored, .unbound why)
    | none => (ignored ++ [.serving (address config)], .running cors)

end Server
end LiveUpdate
