import LiveUpdate.Text.Numeral
import LiveUpdate.Web.Message
import LiveUpdate.WebSocket.Wire

/-! Requests and answers as bytes, in version 1.1 of HTTP. A request has a body only where it
declares the length; an event stream goes out in chunks. -/
namespace LiveUpdate.Web

namespace Wire

def carriageReturn : UInt8 := 0x0D

def lineFeed : UInt8 := 0x0A

def isSpace (b : UInt8) : Bool := b = 0x20 || b = 0x09

def trim (bytes : List UInt8) : List UInt8 :=
  ((bytes.dropWhile isSpace).reverse.dropWhile isSpace).reverse

/-- The lines up to the first empty one, and what is after it; `none` if there is none yet. The line
that is being read is given in reverse. -/
def splitHead (line : List UInt8) : List UInt8 → Option (List (List UInt8) × List UInt8)
  | [] => none
  | b :: rest =>
    if b = lineFeed then
      let line := if line.head? = some carriageReturn then line.tail else line
      if line = [] then some ([], rest)
      else (splitHead [] rest).map fun (lines, rest) => (line.reverse :: lines, rest)
    else splitHead (b :: line) rest

def words (line : List UInt8) : Option (List String) :=
  (headerText? line).map fun text => (String.ofList text).splitOn " "

def header? (line : List UInt8) : Option (String × List UInt8) :=
  let name := line.takeWhile (· ≠ 0x3A)
  if name = line || name = [] then none
  else (headerText? name).map fun text =>
    (String.ofList text, trim (line.drop (name.length + 1)))

/-- What has been read of a connection. -/
inductive Reading
  | incomplete
  | malformed
  /-- A request, and whether another may follow it. -/
  | request (r : Request) (persists : Bool) (rest : List UInt8)
  deriving DecidableEq, Repr

/-- The declared length of a body; a length that is no number, or another way to mark its end, is
not understood. -/
def bodyLength? (r : Request) : Option Nat :=
  if (r.header? "transfer-encoding").isSome then none
  else match r.header? "content-length" with
    | none => some 0
    | some value => (headerText? value).bind Text.readNatural?

/-- Whether the client will send another request over the same connection. -/
def persists (version : String) (r : Request) : Bool :=
  version = "HTTP/1.1" && ((r.header? "connection").bind headerText?).map
    (fun text => text.map Char.toLower) ≠ some "close".toList

def read (bytes : List UInt8) : Reading :=
  match splitHead [] bytes with
  | none => .incomplete
  | some (lines, rest) =>
    match (lines.head?.bind words), lines.tail.mapM header? with
    | some [method, target, version], some headers =>
      let r : Request := ⟨method, .ofText target, headers, [], version = "HTTP/1.1"⟩
      match bodyLength? r with
      | none => .malformed
      | some n =>
        if rest.length < n then .incomplete
        else .request { r with body := rest.take n } (persists version r) (rest.drop n)
    | _, _ => .malformed

def reason : Nat → String
  | 101 => "Switching Protocols"
  | 200 => "OK"
  | 303 => "See Other"
  | 400 => "Bad Request"
  | 401 => "Unauthorized"
  | 403 => "Forbidden"
  | 404 => "Not Found"
  | 405 => "Method Not Allowed"
  | 413 => "Payload Too Large"
  | 415 => "Unsupported Media Type"
  | 422 => "Unprocessable Entity"
  | 426 => "Upgrade Required"
  | _ => "Internal Server Error"

def lineEnd : String := "\r\n"

/-- The part of an answer before its body. -/
def head (status : Nat) (headers : List (String × String)) : String :=
  "HTTP/1.1 " ++ Text.naturalText status ++ " " ++ reason status ++ lineEnd ++
    String.join (headers.map fun (name, value) => name ++ ": " ++ value ++ lineEnd) ++ lineEnd

/-- One piece of a body whose length is not known beforehand. The empty piece is the last one. -/
def chunk (text : String) : String :=
  String.ofList (Nat.toDigits 16 text.utf8ByteSize) ++ lineEnd ++ text ++ lineEnd

end Wire

/-- What can be written at once of the answer to a request; the rest of an event stream follows in
chunks. -/
def Response.wire (r : Request) (response : Response) : String :=
  match response.body with
  | .text content =>
    let length := ("content-length", Text.naturalText content.utf8ByteSize)
    Wire.head response.status (response.headers ++ [length]) ++ content
  | .events _ => Wire.head response.status (response.headers ++ [("transfer-encoding", "chunked")])
  | .upgrade _ =>
    let key := (r.header? "sec-websocket-key").getD []
    Wire.head response.status
      (response.headers ++ [("sec-websocket-accept", WebSocket.acceptance key)])

end LiveUpdate.Web
