import LiveUpdate.Config.Basic
import LiveUpdate.Session.Operation
import LiveUpdate.Web.Form
import LiveUpdate.Web.Identification
import LiveUpdate.Web.Upgrade

/-! The routes of the service, who may use them, and what they do to a session. The identity of a
request is settled first, whatever its path and method. -/
namespace LiveUpdate.Web

inductive Endpoint
  | health
  | studentEvents
  | adminEvents
  | notify
  | liveStats
  deriving DecidableEq, Repr

namespace Endpoint

def ofPath? (path : String) : Option Endpoint :=
  if path = "/health" then some health
  else if path = "/student/api/events" then some studentEvents
  else if path = "/admin/events" then some adminEvents
  else if path = "/admin/notify" then some notify
  else if path = "/admin/live/stats" then some liveStats
  else none

/-- The methods that the endpoint takes. -/
def methods : Endpoint → List String
  | notify => ["POST"]
  | _ => ["GET", "HEAD"]

def accepts (e : Endpoint) (method : String) : Bool := e.methods.contains method

end Endpoint

/-- The student behind a request; everybody else is turned away. -/
def requireStudent (identity : Option Identity) (uri : String) (s : Session) :
    Except Refusal StudentId × Session :=
  match identity with
  | none => (.error (.of .unauthenticated), s)
  | some (.student id) => (.ok id, s)
  | some (.admin name) => (.error (.of .forbidden), s.log (.adminRejected name uri))

/-- The administrator behind a request; everybody else is turned away. -/
def requireAdmin (identity : Option Identity) (uri : String) (s : Session) :
    Except Refusal String × Session :=
  match identity with
  | none => (.error (.of .unauthenticated), s)
  | some (.admin name) => (.ok name, s)
  | some (.student id) => (.error (.of .forbidden), s.log (.studentRejected id uri))

def refuse (r : Refusal) (s : Session) : Response × Session :=
  (r.response, s.onHub (·.logAll r.report))

/-- Registers a connection and answers with the stream of its events. -/
def openEvents (config : Config) (a : Audience) (s : Session) : Response × Session :=
  let (c, s) := s.register a
  let (i, s) := s.openStream c (some (config.keepAliveSeconds * 1000))
  (⟨200, [("cache-control", "no-cache"), ("content-type", "text/event-stream")], .events i⟩, s)

def serveStudent (config : Config) (identity : Option Identity) (r : Request) (s : Session) :
    Response × Session :=
  match requireStudent identity r.target.display s with
  | (.error refusal, s) => refuse refusal s
  | (.ok id, s) =>
    match config.studentTransport with
    | .sse => openEvents config (.student id) (s.log (.studentStream id))
    | .webSocket =>
      match Upgrade.objection? r with
      | some objection => (objection, s)
      | none => (Upgrade.accepted id, s.log (.upgrading id))

def serveAdminEvents (config : Config) (identity : Option Identity) (r : Request) (s : Session) :
    Response × Session :=
  match requireAdmin identity r.target.display s with
  | (.error refusal, s) => refuse refusal s
  | (.ok name, s) => openEvents config .unfiltered (s.log (.adminStream name))

def statsJson (stats : Stats) : String :=
  let member (name : String) (n : Nat) : String := "\"" ++ name ++ "\":" ++ Text.naturalText n
  "\x7b" ++ ",".intercalate [member "connections" stats.connections,
    member "students" stats.students, member "unfiltered" stats.unfiltered,
    member "delivered" stats.delivered, member "dropped" stats.dropped] ++ "\x7d"

def serveStats (identity : Option Identity) (r : Request) (s : Session) : Response × Session :=
  match requireAdmin identity r.target.display s with
  | (.error refusal, s) => refuse refusal s
  | (.ok _, s) =>
    let (stats, s) := s.stats
    (⟨200, [("content-type", "application/json")], .text (statsJson stats)⟩, s)

def formType : String := "application/x-www-form-urlencoded"

/-- The largest body of a form, in bytes. -/
def formLimit : Nat := 2 * 1024 * 1024

/-- Whether the body is declared to be a form; parameters may follow the type. -/
def declaresForm (r : Request) : Bool :=
  match (r.header? "content-type").bind headerText? with
  | some text => formType.toList.isPrefixOf text
  | none => false

/-- The text of a notification form. -/
def notificationText (r : Request) : Except Response String :=
  if !declaresForm r then
    .error (.plain 415 ("Form requests must have \x60Content-Type: " ++ formType ++ "\x60"))
  else if formLimit < r.body.length then
    .error (.plain 413 "Failed to buffer the request body: length limit exceeded")
  else match Form.only "text" r.body with
    | .ok text => .ok text
    | .error why => .error (.plain 422 ("Failed to deserialize form body: " ++ why))

/-- Publishes a notification. It is checked first that every client can be sent the message. -/
def serveNotify (identity : Option Identity) (r : Request) (s : Session) : Response × Session :=
  match requireAdmin identity r.target.display s with
  | (.error refusal, s) => refuse refusal s
  | (.ok name, s) =>
    match notificationText r with
    | .error response => (response, s)
    | .ok text =>
      let message := String.ofList (Text.trimBlanks text.toList)
      if message = "" then refuse (.of (.unprocessable "notification text is empty")) s
      else match Event.notify message with
        | .error why => refuse (.ofFault why.toFault) s
        | .ok _ =>
          let (_, s) := (s.log (.broadcasting name)).publish (.adminNotification message)
          (⟨303, [("location", "/admin/notify")], .text ""⟩, s)

def serve (config : Config) (identity : Option Identity) (r : Request) (s : Session) :
    Endpoint → Response × Session
  | .health => (.plain 200 "healthy", s)
  | .studentEvents => serveStudent config identity r s
  | .adminEvents => serveAdminEvents config identity r s
  | .notify => serveNotify identity r s
  | .liveStats => serveStats identity r s

/-- The answer to a request whose identity is settled. -/
def dispatch (config : Config) (identity : Option Identity) (r : Request) (s : Session) :
    Response × Session :=
  match Endpoint.ofPath? r.target.path with
  | none => (.bare 404, s)
  | some e => if e.accepts r.method then serve config identity r s e else (.bare 405, s)

/-- Says which methods the endpoint takes, if it does not take the one of the request. -/
def allow (r : Request) (response : Response) : Response :=
  match Endpoint.ofPath? r.target.path with
  | none => response
  | some e =>
    if e.accepts r.method then response
    else response.withHeader "allow" (",".intercalate e.methods)

/-- The answer of an endpoint to a `HEAD` request has no body; a stream opened for it is closed at
once. -/
def stripBody (response : Response) (s : Session) : Response × Session :=
  let s := match response.body with
    | .events i => s.closeStream i
    | _ => s
  ({ response with body := .text "" }, s)

/-- Answers a request. -/
def respond (config : Config) (r : Request) (s : Session) : Response × Session :=
  let (response, s) := match identify config.trustIdentity r with
    | .error refusal => refuse refusal s
    | .ok none => dispatch config none r s
    | .ok (some identity) => dispatch config (some identity) r (s.log (.resolved identity))
  let response := allow r response
  if r.method = "HEAD" && (Endpoint.ofPath? r.target.path).isSome then stripBody response s
  else (response, s)

end LiveUpdate.Web
