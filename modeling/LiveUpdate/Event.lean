import LiveUpdate.Text.Quoted
import LiveUpdate.Text.Numeral

/-! Live-update events. An event names what happened (`kind`) and may carry one line of detail
(`payload`). Neither field holds a line break and not both are empty, so every event fits the
line-oriented wire and always has something to say. -/
namespace LiveUpdate

def isLineBreak (c : Char) : Bool := c == '\n' || c == '\r'

def hasLineBreak (s : String) : Bool := s.toList.any isLineBreak

/-- Why a kind and a payload make no event. The payload itself is never repeated. -/
inductive Rejection
  | empty
  | brokenKind (kind : String)
  | brokenPayload (kind : String)
  deriving DecidableEq, Repr

def Rejection.reason : Rejection → String
  | .empty => "kind and payload are both empty"
  | .brokenKind kind => "kind " ++ Text.quote kind ++ " contains a line break"
  | .brokenPayload kind => "payload for kind " ++ Text.quote kind ++ " contains a line break"

structure Event where
  kind : String
  payload : String
  kind_unbroken : hasLineBreak kind = false
  payload_unbroken : hasLineBreak payload = false
  not_empty : ¬(kind = "" ∧ payload = "")
  deriving DecidableEq, Repr

namespace Event

/-- The event of the two fields, or the first of the three checks that fails. -/
def build (kind payload : String) : Except Rejection Event :=
  if empty : kind = "" ∧ payload = "" then .error .empty
  else if brokenKind : hasLineBreak kind then .error (.brokenKind kind)
  else if brokenPayload : hasLineBreak payload then .error (.brokenPayload kind)
  else .ok ⟨kind, payload, by simpa using brokenKind, by simpa using brokenPayload, empty⟩

/-- An event without a payload. -/
def signal (kind : String) : Except Rejection Event := build kind ""

def hello : Event := ⟨"hello", "", by decide, by decide, by decide⟩

def notify (message : String) : Except Rejection Event := build "notify" message

/-- The payload is the course, a comma, and the count; the course may hold commas of its own. -/
def courseCount (course : String) (count : Int) : Except Rejection Event :=
  build "course_count_update" (course ++ "," ++ Text.integerText count)

/-- How an event appears in a log line. -/
def display (e : Event) : String :=
  if e.payload = "" then e.kind else e.kind ++ "(" ++ e.payload ++ ")"

end Event

/-- What a client may have cached and has to load again. -/
inductive Resource
  | categories | courses | periods | grades | selections
  deriving DecidableEq, Repr

def Resource.eventKind : Resource → String
  | .categories => "invalidate_categories"
  | .courses => "invalidate_courses"
  | .periods => "invalidate_periods"
  | .grades => "invalidate_grades"
  | .selections => "invalidate_selections"

def Event.invalidate (resource : Resource) : Event :=
  ⟨resource.eventKind, "", by cases resource <;> decide, by decide, by cases resource <;> decide⟩

end LiveUpdate
