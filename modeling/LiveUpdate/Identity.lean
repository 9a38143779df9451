import LiveUpdate.Audience

/-! Who is behind a request, as an authenticating proxy in front of the service has found out. -/
namespace LiveUpdate

inductive Identity
  | student (id : StudentId)
  | admin (name : String)
  deriving DecidableEq, Repr

def Identity.inspect : Identity → String
  | student id => "Student(" ++ Text.integerText id ++ ")"
  | admin name => "Admin(" ++ Text.quote name ++ ")"

end LiveUpdate
