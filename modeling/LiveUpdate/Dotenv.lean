import LiveUpdate.Config.Arguments
import LiveUpdate.Text.Alphanumeric
import LiveUpdate.Text.Blank

/-! Files of settings, such as `.env`: one assignment a line, with comments, quotes, escapes, and
references to names that are already known. Reading stops at the first line that is not one. -/
namespace LiveUpdate.Dotenv

/-! ### Lines

A line goes on after its end where a quote is still open. -/

inductive LineState
  | complete
  | blank
  | escape
  | strong
  | strongEscape
  | weak
  | weakEscape
  | comment
  deriving DecidableEq, Repr

/-- The state after a character that is not in quotes. -/
def outside (c : Char) : LineState :=
  if c = '\\' then .escape else if c = '"' then .weak else if c = '\'' then .strong else .complete

def LineState.next (state : LineState) (c : Char) : LineState :=
  match state with
  | .complete =>
    if Text.isBlank c && c ≠ '\n' && c ≠ '\r' then .blank else outside c
  | .blank => if c = '#' then .comment else outside c
  | .escape => .complete
  | .strong => if c = '\\' then .strongEscape else if c = '\'' then .complete else .strong
  | .strongEscape => .strong
  | .weak => if c = '\\' then .weakEscape else if c = '"' then .complete else .weak
  | .weakEscape => .weak
  | .comment => .comment

/-- Reads characters up to a comment: the state after them and what came before the comment. -/
def scanLine (state : LineState) : List Char → LineState × List Char
  | [] => (state, [])
  | c :: rest =>
    match state.next c with
    | .comment => (.comment, [])
    | next =>
      let (last, kept) := scanLine next rest
      (last, c :: kept)

/-- The text cut after each line feed. -/
def physicalLines : List Char → List (List Char)
  | [] => []
  | c :: rest =>
    if c = '\n' then [c] :: physicalLines rest
    else match physicalLines rest with
      | [] => [[c]]
      | line :: lines => (c :: line) :: lines

def dropLineEnd (line : List Char) : List Char :=
  match line.reverse with
  | '\n' :: '\r' :: rest => rest.reverse
  | '\n' :: rest => rest.reverse
  | _ => line

/-- The logical lines; `none` where the file ends inside one. -/
def logicalLines (state : LineState) (begun : List Char) :
    List (List Char) → List (Option (List Char))
  | [] => if state = .complete then [] else [none]
  | line :: lines =>
    let whole := begun ++ line
    if (whole.dropWhile Text.isBlank).head? = some '#' then
      some [] :: logicalLines .complete [] lines
    else
      match scanLine state line with
      | (.complete, _) => some (dropLineEnd whole) :: logicalLines .complete [] lines
      | (.comment, kept) => some (begun ++ kept) :: logicalLines .complete [] lines
      | (next, _) => logicalLines next whole lines

/-! ### Values -/

/-- What is known about names: the environment, and the assignments read so far. -/
abbrev Known := List (String × String)

/-- How far a reference to a name has been read. -/
inductive Reference
  | none
  | plain
  | braced
  deriving DecidableEq, Repr

structure Value where
  strong : Bool
  weak : Bool
  escaped : Bool
  /-- Only blanks and a comment may still come. -/
  ending : Bool
  reference : Reference
  name : List Char
  output : List Char
  deriving DecidableEq, Repr

namespace Value

def start : Value := ⟨false, false, false, false, .none, [], []⟩

def push (v : Value) (c : Char) : Value := { v with output := v.output ++ [c] }

/-- Puts what the collected name stands for in its place; an unknown name stands for nothing. -/
def resolve (known : Known) (v : Value) : Value :=
  let text := (known.lookup (String.ofList v.name)).getD ""
  { v with output := v.output ++ text.toList, name := [] }

def readReference (known : Known) (v : Value) (c : Char) : Value :=
  if Text.isAlphanumeric c then { v with name := v.name ++ [c] }
  else match v.reference with
    | .braced =>
      if c = '\x7d' then { v.resolve known with reference := .none }
      else { v with name := v.name ++ [c] }
    | _ =>
      if c = '\x7b' && v.name = [] then { v with reference := .braced }
      else
        let v := v.resolve known
        if c = '$' then { v with reference := .plain } else { v with reference := .none }.push c

/-- The character after a backslash. -/
def readEscaped (v : Value) (c : Char) : Option Value :=
  let v := { v with escaped := false }
  if c = '\\' || c = '\'' || c = '"' || c = '$' || c = ' ' then some (v.push c)
  else if c = 'n' then some (v.push '\n')
  else none

/-- Reads one more character; `none` if the value is malformed there. -/
def read (known : Known) (v : Value) (c : Char) : Option Value :=
  if v.ending then if c = ' ' || c = '\t' then some v else none
  else if v.escaped then v.readEscaped c
  else if v.strong then some (if c = '\'' then { v with strong := false } else v.push c)
  else if v.reference ≠ .none then some (v.readReference known c)
  else if c = '$' then some { v with reference := .plain }
  else if v.weak then
    some (if c = '"' then { v with weak := false }
      else if c = '\\' then { v with escaped := true } else v.push c)
  else if c = '\'' then some { v with strong := true }
  else if c = '"' then some { v with weak := true }
  else if c = '\\' then some { v with escaped := true }
  else if c = ' ' || c = '\t' then some { v with ending := true }
  else some (v.push c)

def readAll (known : Known) (v : Value) : List Char → Option Value
  | [] => some v
  | c :: rest =>
    if v.ending && c = '#' then some v
    else (v.read known c).bind fun v => readAll known v rest

/-- The value that a text denotes. -/
def parse? (known : Known) (text : List Char) : Option String := do
  let v ← readAll known start text
  if v.reference = .braced || v.strong || v.weak then none
  else some (String.ofList (v.resolve known).output)

end Value

/-! ### Assignments -/

def isKeyStart (c : Char) : Bool := c.isAlpha || c = '_'

def isKeyChar (c : Char) : Bool := c.isAlphanum || c = '_' || c = '.'

def skipBlanks (s : List Char) : List Char := s.dropWhile Text.isBlank

/-- A name at the front of a line, and the rest after its blanks. -/
def key? (s : List Char) : Option (String × List Char) :=
  match s with
  | c :: _ =>
    if isKeyStart c then
      some (String.ofList (s.takeWhile isKeyChar), skipBlanks (s.dropWhile isKeyChar))
    else none
  | [] => none

def equals? : List Char → Option (List Char)
  | '=' :: rest => some (skipBlanks rest)
  | _ => none

/-- The name that a line assigns to, and the text of its value. The word `export` may stand in
front; it can also be the name itself. -/
def split? (line : List Char) : Option (String × List Char) := do
  let (name, rest) ← key? line
  match equals? rest with
  | some value => return (name, value)
  | none =>
    if name = "export" then
      let (name, rest) ← key? rest
      return (name, ← equals? rest)
    else none

inductive Line
  | nothing
  | assignment (name value : String)
  | malformed
  deriving DecidableEq, Repr

def Line.parse (known : Known) (text : List Char) : Line :=
  let line := skipBlanks (text.reverse.dropWhile Text.isBlank).reverse
  if line = [] || line.head? = some '#' then .nothing
  else match split? line with
    | none => .malformed
    | some (name, value) =>
      if value = [] || value.head? = some '#' then .assignment name ""
      else match Value.parse? known value with
        | some value => .assignment name value
        | none => .malformed

/-- The assignments up to the first malformed line. Names of the environment win over names of the
file in references, later assignments over earlier ones. -/
def assignments (environment assigned : Known) : List (Option (List Char)) → List (String × String)
  | [] => []
  | none :: _ => []
  | some text :: rest =>
    match Line.parse (environment ++ assigned) text with
    | .nothing => assignments environment assigned rest
    | .assignment name value =>
      let environment := if (environment.lookup name).isSome then environment
        else environment ++ [(name, value)]
      (name, value) :: assignments environment ((name, value) :: assigned) rest
    | .malformed => []

def dropMark : List Char → List Char
  | c :: rest => if c = Char.ofNat 0xFEFF then rest else c :: rest
  | [] => []

/-- Adds the assignments of a file to an environment. A variable that has a text keeps it, so the
first assignment to a name counts; one whose value is no text is assigned anew. -/
def load (environment : Variables) (file : List Char) : Variables :=
  let known : Known := environment.filterMap fun (name, value) =>
    match Text.Utf8.decode value with
    | .ok text => some (name, String.ofList text)
    | .error _ => none
  let lines := logicalLines .complete [] (physicalLines (dropMark file))
  let found := assignments known [] lines
  let added := found.foldl (fun (added : Known) (name, value) =>
    if ((known ++ added).lookup name).isSome then added else added ++ [(name, value)]) []
  added.map (fun (name, value) => (name, value.toUTF8.toList)) ++ environment

end LiveUpdate.Dotenv
