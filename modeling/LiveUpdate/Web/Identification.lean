import LiveUpdate.Identity
import LiveUpdate.Text.Blank
import LiveUpdate.Web.Refusal

/-! The identity of a request. An authenticating proxy writes it into one of two headers, which
count only where that proxy can be trusted to keep clients from writing them. -/
namespace LiveUpdate.Web

def studentHeader : String := "x-student-id"

def adminHeader : String := "x-admin-user"

/-- The trimmed text of a header; a blank one counts as absent. -/
def presentText? (r : Request) (name : String) : Except Refusal (Option (List Char)) :=
  match r.header? name with
  | none => .ok none
  | some value =>
    match headerText? value with
    | none => .error (.of (.badRequest (name ++ " is not valid text")))
    | some text =>
      let trimmed := Text.trimBlanks text
      .ok (if trimmed = [] then none else some trimmed)

/-- The numbers that can be the id of a student. -/
def isStudentId (n : Int) : Bool := -9223372036854775808 ≤ n && n ≤ 9223372036854775807

def studentOfText? (text : List Char) : Option StudentId :=
  (Text.readInteger? text).filter isStudentId

def identityOfHeaders (r : Request) : Except Refusal (Option Identity) := do
  let student ← presentText? r studentHeader
  let admin ← presentText? r adminHeader
  match student, admin with
  | none, none => .ok none
  | some _, some _ =>
    .error (.of (.badRequest "request carries both a student and an admin identity"))
  | some text, none =>
    match studentOfText? text with
    | some id => .ok (some (.student id))
    | none => .error (.of (.badRequest (studentHeader ++ " is not a numeric id")))
  | none, some name => .ok (some (.admin (String.ofList name)))

/-- Who makes the request. Headers that are not trusted are not looked at. -/
def identify (trusted : Bool) (r : Request) : Except Refusal (Option Identity) :=
  if trusted then identityOfHeaders r else .ok none

end LiveUpdate.Web
