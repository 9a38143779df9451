import LiveUpdate.Audience
import LiveUpdate.Text.Utf8
import LiveUpdate.Web.Target

/-! Requests and responses. -/
namespace LiveUpdate.Web

structure Request where
  method : String
  target : Target
  headers : List (String × List UInt8)
  body : List UInt8
  /-- Whether the connection that it came over can change its protocol. -/
  upgradable : Bool
  deriving DecidableEq, Repr

namespace Request

def sameName (a b : String) : Bool := a.toList.map Char.toLower == b.toList.map Char.toLower

/-- The first value of a header; the case of its name does not matter. -/
def header? (r : Request) (name : String) : Option (List UInt8) :=
  (r.headers.find? fun h => sameName h.1 name).map Prod.snd

end Request

/-- Visible characters, blanks and tabs: what a header value may hold to count as text. -/
def isTextByte (b : UInt8) : Bool := (0x20 ≤ b && b ≤ 0x7E) || b = 0x09

def headerText? (value : List UInt8) : Option (List Char) :=
  if value.all isTextByte then some (value.map fun b => Char.ofNat b.toNat) else none

inductive Body
  | text (content : String)
  /-- An event stream of the session, by its number. -/
  | events (stream : Nat)
  /-- The connection goes over to a WebSocket session for this student. -/
  | upgrade (student : StudentId)
  deriving DecidableEq, Repr

structure Response where
  status : Nat
  headers : List (String × String)
  body : Body
  deriving DecidableEq, Repr

namespace Response

def plain (status : Nat) (content : String) : Response :=
  ⟨status, [("content-type", "text/plain; charset=utf-8")], .text content⟩

def bare (status : Nat) : Response := ⟨status, [], .text ""⟩

def withHeader (r : Response) (name value : String) : Response :=
  { r with headers := r.headers ++ [(name, value)] }

end Response

/-- Reading a fixed content as a stream: one chunk, or none if it is empty, and then the end. -/
def readFixed (content : String) (limit : Option Nat) : List String × Bool × String :=
  if content = "" then ([], limit ≠ some 0, "")
  else match limit with
    | some 0 => ([], false, content)
    | some 1 => ([content], false, "")
    | _ => ([content], true, "")

end LiveUpdate.Web
