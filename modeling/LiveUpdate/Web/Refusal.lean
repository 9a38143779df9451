import LiveUpdate.Journal
import LiveUpdate.Web.Message

/-! Why a request is refused, and the answer that goes with it. -/
namespace LiveUpdate.Web

inductive Grounds
  | unauthenticated
  | forbidden
  | badRequest (reason : String)
  | unprocessable (reason : String)
  | internal
  deriving DecidableEq, Repr

def Grounds.inspect : Grounds → String
  | unauthenticated => "Unauthenticated"
  | forbidden => "Forbidden"
  | badRequest reason => "BadRequest(" ++ Text.quote reason ++ ")"
  | unprocessable reason => "Unprocessable(" ++ Text.quote reason ++ ")"
  | internal => "Internal"

structure Refusal where
  cause : Option Fault
  grounds : Grounds
  deriving DecidableEq, Repr

namespace Refusal

def of (grounds : Grounds) : Refusal := ⟨none, grounds⟩

/-- A fault of the hub refuses a request: an event that cannot be built is the client's doing, all
else is ours. -/
def ofFault (fault : Fault) : Refusal :=
  match fault with
  | .invalidEvent reason => ⟨some fault, .unprocessable reason⟩
  | _ => ⟨some fault, .internal⟩

def inspectCause (r : Refusal) : String :=
  match r.cause with
  | none => "None"
  | some fault => "Some(" ++ fault.inspect ++ ")"

def inspect (r : Refusal) : String :=
  "Error \x7b source: " ++ r.inspectCause ++ ", error_kind: " ++ r.grounds.inspect ++ " \x7d"

def response (r : Refusal) : Response :=
  match r.grounds with
  | .unauthenticated => .plain 401 "UNAUTHORIZED"
  | .forbidden => .plain 403 "FORBIDDEN"
  | .badRequest reason => .plain 400 reason
  | .unprocessable reason => .plain 422 reason
  | .internal => .plain 500 "INTERNAL SERVER ERROR"

/-- Only what is our own doing is reported. -/
def report (r : Refusal) : List Entry :=
  match r.grounds with
  | .internal => [.internalError r.inspectCause]
  | _ => []

end Refusal
end LiveUpdate.Web
