import LiveUpdate.Text.Utf8

/-! Bodies of the type `application/x-www-form-urlencoded`. -/
namespace LiveUpdate.Web.Form

def ampersand : UInt8 := 0x26
def equals : UInt8 := 0x3D
def percent : UInt8 := 0x25
def plus : UInt8 := 0x2B
def blank : UInt8 := 0x20

def hexValue? (b : UInt8) : Option UInt8 :=
  if 0x30 ≤ b && b ≤ 0x39 then some (b - 0x30)
  else if 0x41 ≤ b && b ≤ 0x46 then some (b - 0x41 + 10)
  else if 0x61 ≤ b && b ≤ 0x66 then some (b - 0x61 + 10)
  else none

/-- A percent sign that two hexadecimal digits do not follow stands for itself. -/
def percentDecode : List UInt8 → List UInt8
  | [] => []
  | [a] => [a]
  | [a, b] => [a, b]
  | a :: b :: c :: rest =>
    if a = percent then
      match hexValue? b, hexValue? c with
      | some high, some low => (high * 16 + low) :: percentDecode rest
      | _, _ => a :: percentDecode (b :: c :: rest)
    else a :: percentDecode (b :: c :: rest)

/-- The text of a name or a value. -/
def decode (bytes : List UInt8) : String :=
  let spaced := bytes.map fun b => if b = plus then blank else b
  String.ofList (Text.Utf8.decodeLossy (percentDecode spaced))

/-- Cuts a list at every occurrence of a separator. -/
def splitAt (separator : UInt8) : List UInt8 → List (List UInt8)
  | [] => [[]]
  | b :: rest =>
    if b = separator then [] :: splitAt separator rest
    else match splitAt separator rest with
      | [] => [[b]]
      | first :: others => (b :: first) :: others

/-- A field up to its first equals sign, and what is after that. -/
def field (bytes : List UInt8) : String × String :=
  (decode (bytes.takeWhile (· ≠ equals)), decode ((bytes.dropWhile (· ≠ equals)).drop 1))

def fields (body : List UInt8) : List (String × String) :=
  ((splitAt ampersand body).filter (· ≠ [])).map field

/-- The value of the one field that has this name. -/
def only (name : String) (body : List UInt8) : Except String String :=
  match (fields body).filter (·.1 = name) with
  | [] => .error ("missing field " ++ String.ofList (quoted name.toList))
  | [f] => .ok f.2
  | _ => .error ("duplicate field " ++ String.ofList (quoted name.toList))
where
  quoted (name : List Char) : List Char := '\x60' :: name ++ ['\x60']

end LiveUpdate.Web.Form
