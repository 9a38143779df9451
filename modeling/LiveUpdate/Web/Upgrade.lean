import LiveUpdate.Web.Message

/-! The conditions under which a request opens a WebSocket session. -/
namespace LiveUpdate.Web.Upgrade

def lowerAscii (bytes : List UInt8) : List UInt8 :=
  bytes.map fun b => if 0x41 ≤ b && b ≤ 0x5A then b + 0x20 else b

def containsWord (word : List UInt8) : List UInt8 → Bool
  | [] => word.isPrefixOf []
  | b :: rest => word.isPrefixOf (b :: rest) || containsWord word rest

/-- Whether a header names the word somewhere, in any mixture of cases; only text is searched. -/
def mentions (r : Request) (name word : String) : Bool :=
  match r.header? name with
  | none => false
  | some value =>
    (Text.Utf8.decode value).toOption.isSome && containsWord word.toUTF8.toList (lowerAscii value)

/-- Whether a header is exactly the word, in any mixture of cases. -/
def equals (r : Request) (name word : String) : Bool :=
  match r.header? name with
  | none => false
  | some value => lowerAscii value = word.toUTF8.toList

/-- The first condition that a request for an upgrade does not meet, with its status. -/
def objection? (r : Request) : Option Response :=
  if r.method ≠ "GET" then some (.plain 405 "Request method must be \x60GET\x60")
  else if !mentions r "connection" "upgrade" then
    some (.plain 400 "Connection header did not include 'upgrade'")
  else if !equals r "upgrade" "websocket" then
    some (.plain 400 "\x60Upgrade\x60 header did not include 'websocket'")
  else if (r.header? "sec-websocket-key").isNone then
    some (.plain 400 "\x60Sec-WebSocket-Key\x60 header missing")
  else if !equals r "sec-websocket-version" "13" then
    some (.plain 400 "\x60Sec-WebSocket-Version\x60 header did not include '13'")
  else if !r.upgradable then
    some (.plain 426 "WebSocket request couldn't be upgraded since no upgrade state was present")
  else none

def accepted (student : StudentId) : Response :=
  ⟨101, [("connection", "upgrade"), ("upgrade", "websocket")], .upgrade student⟩

end LiveUpdate.Web.Upgrade
