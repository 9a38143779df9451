import LiveUpdate.Web.Router

/-! Answers to pages of other origins: which origins may read them, and the headers that say so. -/
namespace LiveUpdate.Web

/-- What a header value may consist of: no control characters but tabs. -/
def isHeaderByte (b : UInt8) : Bool := (0x20 ≤ b && b ≠ 0x7F) || b = 0x09

/-- The origins that are admitted. -/
structure Cors where
  origins : List String
  deriving DecidableEq, Repr

namespace Cors

def isWritable (origin : String) : Bool := (Text.Utf8.encode origin.toList).all isHeaderByte

/-- Stands for every origin, and so has no place in a list. -/
def wildcard : String := "*"

def wildcardObjection : String :=
  "Wildcard origin (\x60*\x60) cannot be passed to \x60AllowOrigin::list\x60. " ++
    "Use \x60AllowOrigin::any()\x60 instead"

/-- Admits the origins of a list that a header can hold. -/
def ofOrigins? (origins : List String) : Except String Cors :=
  let writable := origins.filter isWritable
  if writable.contains wildcard then .error wildcardObjection else .ok ⟨writable⟩

/-- The origins that are passed over. -/
def report (origins : List String) : List Entry :=
  (origins.filter fun origin => !isWritable origin).map fun origin =>
    .originIgnored origin "failed to parse header value"

/-- The origin of a request, if it is admitted. -/
def admitted? (cors : Cors) (r : Request) : Option String :=
  (r.header? "origin").bind fun value =>
    cors.origins.find? fun origin => Text.Utf8.encode origin.toList = value

/-- The headers of every answer. -/
def headers (cors : Cors) (r : Request) : List (String × String) :=
  ((cors.admitted? r).map fun origin => ("access-control-allow-origin", origin)).toList ++
    [("access-control-allow-credentials", "true"),
      ("vary", "origin, access-control-request-method, access-control-request-headers")]

/-- The answer to a page that asks what it may do. -/
def permissions (cors : Cors) (r : Request) : Response :=
  ⟨200, cors.headers r ++ [("access-control-allow-methods", "GET,POST"),
    ("access-control-allow-headers", "content-type")], .text ""⟩

/-- Answers a request. Questions for permission never reach an endpoint. -/
def respond (cors : Cors) (config : Config) (r : Request) (s : Session) : Response × Session :=
  if r.method = "OPTIONS" then (cors.permissions r, s)
  else
    let (response, s) := Web.respond config r s
    ({ response with headers := response.headers ++ cors.headers r }, s)

end Cors
end LiveUpdate.Web
