import LiveUpdate.Audience

/-! Committed changes that connected clients may need to hear about. Events that concern certain
students carry their ids; who is affected is the producer's decision. -/
namespace LiveUpdate

/-- How many students take a course at present. -/
structure CourseCount where
  course : String
  students : Int
  deriving DecidableEq, Repr

inductive DomainEvent
  | categoriesChanged
  | periodsChanged
  | coursesChanged
  | gradesChanged
  | selectionsChanged (students : List StudentId) (counts : List CourseCount)
  | adminNotification (message : String)
  deriving DecidableEq, Repr

def DomainEvent.name : DomainEvent → String
  | categoriesChanged => "categories_changed"
  | periodsChanged => "periods_changed"
  | coursesChanged => "courses_changed"
  | gradesChanged => "grades_changed"
  | selectionsChanged _ _ => "selections_changed"
  | adminNotification _ => "admin_notification"

end LiveUpdate
