import LiveUpdate.Event

/-! What can go wrong between an event and the wire. -/
namespace LiveUpdate

/-- The cause of a failed encoding: its own words, and where in the text it was met if known. -/
structure EncodingCause where
  text : String
  line : Nat
  column : Nat
  deriving DecidableEq, Repr

/-- The position is told only if it is known. -/
def EncodingCause.message (cause : EncodingCause) : String :=
  if cause.line = 0 then cause.text
  else cause.text ++ " at line " ++ Text.naturalText cause.line ++ " column " ++
    Text.naturalText cause.column

def EncodingCause.inspect (cause : EncodingCause) : String :=
  "Error(" ++ Text.quote cause.text ++ ", line: " ++ Text.naturalText cause.line ++ ", column: " ++
    Text.naturalText cause.column ++ ")"

namespace EncodingCause

/-- The last occurrence of `mark` in `s`: what is before it and what is after it. -/
def splitLast? (mark : List Char) : List Char → Option (List Char × List Char)
  | [] => if mark = [] then some ([], []) else none
  | c :: rest =>
    match splitLast? mark rest with
    | some (before, after) => some (c :: before, after)
    | none => if mark.isPrefixOf (c :: rest) then some ([], (c :: rest).drop mark.length) else none

/-- The number at the front of the text, if it fits a word, and the rest. -/
def takeNumber? (s : List Char) : Option (Nat × List Char) :=
  match Text.readNatural? (s.takeWhile Text.isDigit) with
  | some n => if n < UInt64.size then some (n, s.dropWhile Text.isDigit) else none
  | none => none

/-- Takes a closing ` at line L column C` off a text and keeps it as the position. -/
def ofText (text : String) : EncodingCause :=
  let position := do
    let (before, after) ← splitLast? " at line ".toList text.toList
    let (line, rest) ← takeNumber? after
    let columnMark := " column ".toList
    if columnMark.isPrefixOf rest then
      let (column, rest) ← takeNumber? (rest.drop columnMark.length)
      if rest = [] then some (EncodingCause.mk (String.ofList before) line column) else none
    else none
  position.getD ⟨text, 0, 0⟩

end EncodingCause

/-- A fault of the hub. Only the last two can arise once an event is built. -/
inductive Fault
  | invalidEvent (reason : String)
  | encode (reason : String) (cause : Option EncodingCause)
  | transport (cause : Option String)
  deriving DecidableEq, Repr

namespace Fault

def message : Fault → String
  | invalidEvent reason => "invalid event: " ++ reason
  | encode reason _ => "failed to encode event: " ++ reason
  | transport (some cause) => "transport error: " ++ cause
  | transport none => "transport error"

/-- The name of the fault's class. -/
def className : Fault → String
  | invalidEvent _ => "InvalidEvent"
  | encode _ _ => "Encode"
  | transport _ => "Transport"

def inspectKind : Fault → String
  | invalidEvent reason => "InvalidEvent(" ++ Text.quote reason ++ ")"
  | encode reason _ => "Encode(" ++ Text.quote reason ++ ")"
  | transport _ => "Transport"

/-- The words of the underlying cause. -/
def causeText : Fault → Option String
  | invalidEvent _ => none
  | encode _ cause => cause.map EncodingCause.message
  | transport cause => cause

/-- The underlying cause as shown in diagnostics. -/
def inspectCause : Fault → Option String
  | invalidEvent _ => none
  | encode _ cause => cause.map EncodingCause.inspect
  | transport cause => cause.map Text.quote

def inspect (fault : Fault) : String :=
  let cause := match fault.inspectCause with
    | some text => "Some(" ++ text ++ ")"
    | none => "None"
  "Error \x7b source: " ++ cause ++ ", error_kind: " ++ fault.inspectKind ++ " \x7d"

end Fault

def Rejection.toFault (r : Rejection) : Fault := .invalidEvent r.reason

/-- What a caller is told who insists on an event that cannot be built. -/
def Rejection.refusal (r : Rejection) : String :=
  "refusing to build live-update event: " ++ r.toFault.message

/-- What those get who insist on an event: the event, or the words in which they are refused. -/
def Event.insist (made : Except Rejection Event) : Except String Event :=
  made.mapError Rejection.refusal

end LiveUpdate
