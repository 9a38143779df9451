import LiveUpdate.DomainEvent

/-! Which messages a domain event becomes. Students hear of their own selections, and so does
everybody unfiltered; all other changes are for everyone. -/
namespace LiveUpdate

/-- The messages up to the first event that cannot be built, and why it cannot. -/
structure Plan where
  messages : List Message
  refusal : Option Rejection
  deriving DecidableEq, Repr

namespace Plan

def single (scope : Scope) : Except Rejection Event → Plan
  | .ok e => ⟨[⟨scope, e⟩], none⟩
  | .error why => ⟨[], some why⟩

/-- One plan after another; a refusal ends both. -/
def append (p q : Plan) : Plan :=
  match p.refusal with
  | some _ => p
  | none => ⟨p.messages ++ q.messages, q.refusal⟩

def nothing : Plan := ⟨[], none⟩

end Plan

namespace DomainEvent

/-- The students of a list, each at its first mention. -/
def distinctStudents (students : List StudentId) : List StudentId := students.eraseDups

/-- The courses that have a name, each with the count of its first mention. -/
def distinctCounts (counts : List CourseCount) : List CourseCount :=
  (counts.filter (·.course ≠ "")).eraseDupsBy (·.course == ·.course)

def selectionPlan (students : List StudentId) : Plan :=
  match distinctStudents students with
  | [] => .nothing
  | distinct =>
    .single (.only (distinct.map .student ++ [.unfiltered])) (.ok (.invalidate .selections))

def countPlan (counts : List CourseCount) : Plan :=
  (distinctCounts counts).foldr
    (fun count plan =>
      (Plan.single .broadcast (Event.courseCount count.course count.students)).append plan)
    .nothing

def plan : DomainEvent → Plan
  | categoriesChanged => .single .broadcast (.ok (.invalidate .categories))
  | periodsChanged => .single .broadcast (.ok (.invalidate .periods))
  | coursesChanged => .single .broadcast (.ok (.invalidate .courses))
  | gradesChanged => .single .broadcast (.ok (.invalidate .grades))
  | selectionsChanged students counts => (selectionPlan students).append (countPlan counts)
  | adminNotification message => .single .broadcast (Event.notify message)

end DomainEvent
end LiveUpdate
