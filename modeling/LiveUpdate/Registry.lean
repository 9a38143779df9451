import LiveUpdate.Table
import LiveUpdate.Audience

/-! The table of live connections, and an index of it by audience. -/
namespace LiveUpdate

/-- Connections are numbered in the order in which they are asked for, and no number returns. -/
structure ConnectionId where
  number : Nat
  deriving DecidableEq, Repr

structure Registry where
  audiences : Table ConnectionId Audience
  members : Table Audience (List ConnectionId)

namespace Registry

def empty : Registry := ⟨.empty, .empty⟩

/-- The connections of an audience. -/
def bucket (r : Registry) (a : Audience) : List ConnectionId := (r.members.get? a).getD []

/-- Takes a connection out of the bucket of its audience, and the bucket away with its last one. -/
def leave (members : Table Audience (List ConnectionId)) (c : ConnectionId) (a : Audience) :
    Table Audience (List ConnectionId) :=
  match members.get? a with
  | none => members
  | some bucket =>
    let rest := bucket.filter (· ≠ c)
    if rest = [] then members.erase a else members.insert a rest

/-- The audience that the connection had, if it was registered, and the table without it. -/
def unregister (r : Registry) (c : ConnectionId) : Option Audience × Registry :=
  match r.audiences.get? c with
  | none => (none, r)
  | some a => (some a, ⟨r.audiences.erase c, leave r.members c a⟩)

/-- Enters a connection; one that was registered before moves to its new audience. -/
def register (r : Registry) (c : ConnectionId) (a : Audience) : Registry :=
  let r := (r.unregister c).2
  ⟨r.audiences.insert c a, r.members.insert a (r.bucket a ++ [c])⟩

/-- The connections that a message of this scope is offered to, each of them once. -/
def recipients (r : Registry) : Scope → List ConnectionId
  | .broadcast => r.audiences.keys
  | .only audiences => audiences.eraseDups.flatMap r.bucket

def connectionCount (r : Registry) : Nat := r.audiences.size

/-- The number of different students with a connection, read off the index. -/
def studentCount (r : Registry) : Nat := r.members.keys.countP Audience.isStudent

def unfilteredCount (r : Registry) : Nat := (r.bucket .unfiltered).length

end Registry
end LiveUpdate
