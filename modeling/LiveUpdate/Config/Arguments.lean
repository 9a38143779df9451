import LiveUpdate.Config.Option

/-! Reading a command line. Options are written `--name value`, `--name=value`, and those with a
short name also `-x value`, `-xvalue` and `-x=value`. What the command line leaves open is looked up
in the environment, and after that a standard value holds. -/
namespace LiveUpdate

/-- What an argument looks like, by its first bytes. -/
inductive Token
  /-- Two dashes alone: nothing after them is an option. -/
  | escape
  | long (name : List UInt8) (value : Option (List UInt8))
  | short (letters : List UInt8)
  | plain
  deriving DecidableEq, Repr

namespace Token

def dash : UInt8 := 0x2D

def equals : UInt8 := 0x3D

/-- Cuts at the first equals sign. -/
def splitEquals : List UInt8 → List UInt8 × Option (List UInt8)
  | [] => ([], none)
  | b :: rest =>
    if b = equals then ([], some rest)
    else
      let (name, value) := splitEquals rest
      (b :: name, value)

def ofBytes : List UInt8 → Token
  | [] => .plain
  | [_] => .plain
  | b :: c :: rest =>
    if b ≠ dash then .plain
    else if c ≠ dash then .short (c :: rest)
    else if rest = [] then .escape
    else
      let (name, value) := splitEquals rest
      .long name value

end Token

/-- What a name on the command line asks for. -/
inductive Named
  | setting (s : Setting)
  | help
  | version
  deriving DecidableEq, Repr

namespace Named

def ofLong? (name : List UInt8) : Option Named :=
  if name = Text.Utf8.encode "help".toList then some .help
  else if name = Text.Utf8.encode "version".toList then some .version
  else (Setting.all.find? fun s => name = Text.Utf8.encode s.longName.toList).map .setting

def ofShort? (letter : Char) : Option Named :=
  if letter = 'h' then some .help
  else if letter = 'V' then some .version
  else (Setting.all.find? fun s => s.shortName? = some letter).map .setting

/-- Whether it stands alone. -/
def isFlag : Named → Bool
  | setting s => s.isFlag
  | _ => true

def display : Named → String
  | setting s => s.display
  | help => "--help"
  | version => "--version"

end Named

/-- How far a command line has been read. -/
structure Scan where
  choices : Choices
  /-- The option named last, with its value once that has come. Its effect waits for the next
  option, or for the end. -/
  open? : Option (Setting × Option (List UInt8))
  /-- Two dashes have been read. -/
  escaped : Bool
  deriving DecidableEq, Repr

namespace Scan

def start : Scan := ⟨.none, none, false⟩

def lossy (bytes : List UInt8) : String := String.ofList (Text.Utf8.decodeLossy bytes)

/-- An option takes effect. Only origins may be given more than once. -/
def settle (choices : Choices) (s : Setting) (value : List UInt8) : Except UsageError Choices :=
  if s ≠ .allowedOrigins && choices.has s then .error (.repeated s) else choices.assign s value

/-- The option that is still open takes effect. -/
def resolve (scan : Scan) : Except UsageError Scan :=
  match scan.open? with
  | none => .ok scan
  | some (s, none) => .error (.missingValue s)
  | some (s, some value) => do
    return { scan with choices := ← settle scan.choices s value, open? := none }

/-- A flag that was named, or an option together with its value if that is attached. -/
def name (scan : Scan) (named : Named) (attached : Option (List UInt8)) :
    Except UsageError Scan := do
  let scan ← scan.resolve
  match named with
  | .help => .error .helpRequested
  | .version => .error .versionRequested
  | .setting s =>
    if s.isFlag then
      return { scan with choices := ← settle scan.choices s (Text.Utf8.encode "true".toList) }
    match attached with
    | some value => return { scan with choices := ← settle scan.choices s value }
    | none => return { scan with open? := some (s, none) }

def readLong (scan : Scan) (name : List UInt8) (attached : Option (List UInt8)) :
    Except UsageError Scan :=
  match Named.ofLong? name with
  | none => .error (.unknownArgument ("--" ++ lossy name))
  | some named =>
    match attached with
    | some value =>
      if named.isFlag then .error (.unwantedValue named.display (lossy value))
      else scan.name named attached
    | none => scan.name named none

/-- What follows the letter of an option is its value, less an equals sign in front. -/
def attachedToLetter : List UInt8 → Option (List UInt8)
  | [] => none
  | b :: rest => if b = Token.equals then some rest else some (b :: rest)

def readShort (scan : Scan) (letters : List UInt8) : Except UsageError Scan :=
  match Text.Utf8.pieces letters with
  | .char c :: _ =>
    match Named.ofShort? c with
    | none => .error (.unknownArgument (String.ofList ['-', c]))
    | some named => scan.name named (attachedToLetter (letters.drop c.utf8Size))
  | _ => .error (.unknownArgument ("-" ++ lossy letters))

/-- An argument that names no option is the value of the one before it, or has no place. -/
def readPlain (scan : Scan) (argument : List UInt8) : Except UsageError Scan :=
  match scan.open?, scan.escaped with
  | some (s, none), false => .ok { scan with open? := some (s, some argument) }
  | _, _ => .error (.unknownArgument (lossy argument))

def read (scan : Scan) (argument : List UInt8) : Except UsageError Scan :=
  if scan.escaped then scan.readPlain argument
  else match Token.ofBytes argument with
    | .escape => .ok { scan with escaped := true }
    | .long name value => scan.readLong name value
    | .short letters => scan.readShort letters
    | .plain => scan.readPlain argument

end Scan

/-- Variables of the environment with their values. -/
abbrev Variables := List (String × List UInt8)

namespace Choices

/-- Settles by the environment what the command line left open. -/
def consult (environment : Variables) (c : Choices) (s : Setting) : Except UsageError Choices :=
  if c.has s then .ok c
  else match environment.lookup s.variableName with
    | some value => c.assign s value
    | .none => .ok c

end Choices

namespace Config

def choices (arguments : List (List UInt8)) : Except UsageError Choices := do
  let scan ← arguments.foldlM Scan.read Scan.start
  return (← scan.resolve).choices

/-- The configuration of a command line and an environment, or the first thing wrong with them. -/
def read (arguments : List (List UInt8)) (environment : Variables) : Except UsageError Config := do
  let choices ← choices arguments
  return (← Setting.all.foldlM (Choices.consult environment) choices).complete

end Config
end LiveUpdate
