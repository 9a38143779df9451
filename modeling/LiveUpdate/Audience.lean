import LiveUpdate.Event

/-! Who a connection speaks for, and whom a message is meant for. -/
namespace LiveUpdate

abbrev StudentId := Int

/-- The audience under which a connection registers: one student, or somebody who sees everything
that is not meant for a student alone. -/
inductive Audience
  | unfiltered
  | student (id : StudentId)
  deriving DecidableEq, Repr

namespace Audience

def display : Audience → String
  | unfiltered => "unfiltered"
  | student id => "student:" ++ Text.integerText id

def inspect : Audience → String
  | unfiltered => "Unfiltered"
  | student id => "Student(" ++ Text.integerText id ++ ")"

def isStudent : Audience → Bool
  | unfiltered => false
  | student _ => true

end Audience

inductive Scope
  | broadcast
  | only (audiences : List Audience)
  deriving DecidableEq, Repr

namespace Scope

/-- Whether connections of this audience are meant. -/
def covers : Scope → Audience → Bool
  | broadcast, _ => true
  | only audiences, a => audiences.contains a

def inspect : Scope → String
  | broadcast => "Broadcast"
  | only audiences => "Audience([" ++ ", ".intercalate (audiences.map Audience.inspect) ++ "])"

end Scope

structure Message where
  scope : Scope
  event : Event
  deriving DecidableEq, Repr

end LiveUpdate
