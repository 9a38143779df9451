import LiveUpdate.Event

/-! The text frame of an event: one compact JSON object with the kind and, unless it is empty, the
payload. Keeping the fields apart leaves a comma inside a payload unambiguous. -/
namespace LiveUpdate.Frame

/-- Two lower-case hexadecimal digits after `\u00`. -/
def controlEscape (n : Nat) : List Char :=
  ['\\', 'u', '0', '0', Nat.digitChar (n / 16), Nat.digitChar (n % 16)]

/-- The written form of one character inside a JSON string. -/
def jsonChar (c : Char) : List Char :=
  if c = '"' then ['\\', '"']
  else if c = '\\' then ['\\', '\\']
  else if c = '\x08' then ['\\', 'b']
  else if c = '\x0c' then ['\\', 'f']
  else if c = '\n' then ['\\', 'n']
  else if c = '\r' then ['\\', 'r']
  else if c = '\t' then ['\\', 't']
  else if c.toNat < 0x20 then controlEscape c.toNat
  else [c]

def jsonString (s : List Char) : List Char := '"' :: s.flatMap jsonChar ++ ['"']

def jsonMember (name : String) (value : String) : List Char :=
  jsonString name.toList ++ ':' :: jsonString value.toList

def jsonChars (e : Event) : List Char :=
  let payload := if e.payload = "" then [] else ',' :: jsonMember "payload" e.payload
  '\x7b' :: jsonMember "kind" e.kind ++ payload ++ ['\x7d']

def json (e : Event) : String := String.ofList (jsonChars e)

end LiveUpdate.Frame
