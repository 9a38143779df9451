import LiveUpdate.Web.Router
import LiveUpdate.Session.Start
import LiveUpdate.Proofs.Turns

/-! Runs of a session behind the router: requests and WebSocket sessions, what their clients do, and
what is published meanwhile. What a request does to the session is settled by the request. -/
namespace LiveUpdate

/-- Several lines of the journal at once. -/
def Session.logAll (s : Session) (entries : List Entry) : Session :=
  s.onHub (·.logAll entries)

namespace Session

theorem log_eq (s : Session) (entry : Entry) : s.log entry = s.logAll [entry] := rfl

@[simp] theorem logAll_logAll (s : Session) (first rest : List Entry) :
    (s.logAll first).logAll rest = s.logAll (first ++ rest) := by
  simp [logAll, onHub, Hub.logAll]

@[simp] theorem logAll_nil (s : Session) : s.logAll [] = s := by
  simp [logAll, onHub, Hub.logAll]

end Session

namespace Web

/-! ### Requests -/

/-- What a request is about, beside its lines in the journal. -/
inductive Errand
  | nothing
  | stream (a : Audience)
  | upgrade (student : StudentId)
  | publish (d : DomainEvent)
  | figures
  deriving DecidableEq, Repr

/-- The errand of a notification: an administrator's text that is there and fits an event. -/
def noticeErrand (name : String) (r : Request) : List Entry × Errand :=
  match notificationText r with
  | .error _ => ([], .nothing)
  | .ok text =>
    let message := String.ofList (Text.trimBlanks text.toList)
    if message = "" then
      ((Refusal.of (.unprocessable "notification text is empty")).report, .nothing)
    else match Event.notify message with
      | .error why => ((Refusal.ofFault why.toFault).report, .nothing)
      | .ok _ => ([.broadcasting name], .publish (.adminNotification message))

/-- What an endpoint is asked for, by whom. -/
def Endpoint.errand (config : Config) (r : Request) :
    Endpoint → Option Identity → List Entry × Errand
  | health, _ => ([], .nothing)
  | _, none => ((Refusal.of .unauthenticated).report, .nothing)
  | studentEvents, some (.student id) =>
    match config.studentTransport with
    | .sse => ([.studentStream id], .stream (.student id))
    | .webSocket =>
      match Upgrade.objection? r with
      | some _ => ([], .nothing)
      | none => ([.upgrading id], .upgrade id)
  | studentEvents, some (.admin name) =>
    (.adminRejected name r.target.display :: (Refusal.of .forbidden).report, .nothing)
  | _, some (.student id) =>
    (.studentRejected id r.target.display :: (Refusal.of .forbidden).report, .nothing)
  | adminEvents, some (.admin name) => ([.adminStream name], .stream .unfiltered)
  | notify, some (.admin name) => noticeErrand name r
  | liveStats, some (.admin _) => ([], .figures)

/-- What a request is about. -/
def errand (config : Config) (r : Request) : List Entry × Errand :=
  match identify config.trustIdentity r with
  | .error refusal => (refusal.report, .nothing)
  | .ok identity =>
    let resolved := (identity.map Entry.resolved).toList
    match Endpoint.ofPath? r.target.path with
    | none => (resolved, .nothing)
    | some e =>
      if e.accepts r.method then
        (resolved ++ (e.errand config r identity).1, (e.errand config r identity).2)
      else (resolved, .nothing)

/-- Opens a stream of events. -/
def openStream (config : Config) (a : Audience) (s : Session) : Nat × Session :=
  (s.register a).2.openStream (s.register a).1 (some (config.keepAliveSeconds * 1000))

def Errand.run (config : Config) (s : Session) : Errand → Session
  | .nothing | .upgrade _ => s
  | .stream a => (openStream config a s).2
  | .publish d => (s.publish d).2
  | .figures => s.stats.2

/-- Whether a body is the one that goes with an errand done in a session. -/
def Errand.answers (s : Session) : Errand → Body → Prop
  | .stream _, body => body = .events s.next
  | .upgrade student, body => body = .upgrade student
  | _, body => ∃ content, body = .text content

theorem refuse_eq (refusal : Refusal) (s : Session) :
    refuse refusal s = (refusal.response, s.logAll refusal.report) := rfl

theorem refusal_body (refusal : Refusal) : ∃ content, refusal.response.body = .text content := by
  unfold Refusal.response
  split <;> exact ⟨_, rfl⟩

theorem objection_body {r : Request} {response : Response}
    (h : Upgrade.objection? r = some response) : ∃ content, response.body = .text content := by
  unfold Upgrade.objection? at h
  grind [Response.plain]

theorem notificationText_body {r : Request} {response : Response}
    (h : notificationText r = .error response) : ∃ content, response.body = .text content := by
  unfold notificationText at h
  grind [Response.plain]

/-- A response belongs to an errand that is done in a session after some lines of the journal. -/
def Fulfils (config : Config) (s : Session) (duty : List Entry × Errand)
    (outcome : Response × Session) : Prop :=
  outcome.2 = duty.2.run config (s.logAll duty.1) ∧
    duty.2.answers (s.logAll duty.1) outcome.1.body

variable {config : Config} {s : Session} {r : Request}

theorem fulfils_refuse (refusal : Refusal) :
    Fulfils config s (refusal.report, .nothing) (refuse refusal s) :=
  ⟨rfl, refusal_body refusal⟩

theorem fulfils_refuse_after (entry : Entry) (refusal : Refusal) :
    Fulfils config s (entry :: refusal.report, .nothing) (refuse refusal (s.log entry)) := by
  refine ⟨?_, refusal_body refusal⟩
  rw [refuse_eq, s.log_eq, Session.logAll_logAll]
  rfl

theorem fulfils_student (identity : Option Identity) :
    Fulfils config s (Endpoint.studentEvents.errand config r identity)
      (serveStudent config identity r s) := by
  cases identity with
  | none => exact fulfils_refuse _
  | some identity =>
    cases identity with
    | admin name => exact fulfils_refuse_after _ _
    | student id =>
      simp only [serveStudent, requireStudent, Endpoint.errand]
      cases config.studentTransport with
      | sse => exact ⟨rfl, rfl⟩
      | webSocket =>
        simp only []
        cases ho : Upgrade.objection? r with
        | some objection => exact ⟨s.logAll_nil.symm, objection_body ho⟩
        | none => exact ⟨rfl, rfl⟩

theorem fulfils_adminEvents (identity : Option Identity) :
    Fulfils config s (Endpoint.adminEvents.errand config r identity)
      (serveAdminEvents config identity r s) := by
  cases identity with
  | none => exact fulfils_refuse _
  | some identity =>
    cases identity with
    | student id => exact fulfils_refuse_after _ _
    | admin name => exact ⟨rfl, rfl⟩

theorem fulfils_notify (identity : Option Identity) :
    Fulfils config s (Endpoint.notify.errand config r identity) (serveNotify identity r s) := by
  cases identity with
  | none => exact fulfils_refuse _
  | some identity =>
    cases identity with
    | student id => exact fulfils_refuse_after _ _
    | admin name =>
      simp only [serveNotify, requireAdmin, Endpoint.errand, noticeErrand]
      cases ht : notificationText r with
      | error response => exact ⟨s.logAll_nil.symm, notificationText_body ht⟩
      | ok text =>
        by_cases hm : String.ofList (Text.trimBlanks text.toList) = ""
        · simp only [if_pos hm]
          exact fulfils_refuse (.of (.unprocessable "notification text is empty"))
        · simp only [if_neg hm]
          cases Event.notify (String.ofList (Text.trimBlanks text.toList)) with
          | error why => exact fulfils_refuse (.ofFault why.toFault)
          | ok e => exact ⟨rfl, "", rfl⟩

theorem fulfils_stats (identity : Option Identity) :
    Fulfils config s (Endpoint.liveStats.errand config r identity) (serveStats identity r s) := by
  cases identity with
  | none => exact fulfils_refuse _
  | some identity =>
    cases identity with
    | student id => exact fulfils_refuse_after _ _
    | admin name =>
      refine ⟨?_, _, rfl⟩
      simp only [serveStats, requireAdmin, Endpoint.errand, Session.logAll_nil]
      rfl

theorem fulfils_serve (identity : Option Identity) (e : Endpoint) :
    Fulfils config s (e.errand config r identity) (serve config identity r s e) := by
  cases e with
  | health => exact ⟨by simp [serve, Endpoint.errand, Errand.run], _, rfl⟩
  | studentEvents => exact fulfils_student identity
  | adminEvents => exact fulfils_adminEvents identity
  | notify => exact fulfils_notify identity
  | liveStats => exact fulfils_stats identity

/-- The answer to a request before its body may be stripped. -/
def answer (config : Config) (r : Request) (s : Session) : Response × Session :=
  match identify config.trustIdentity r with
  | .error refusal => refuse refusal s
  | .ok none => dispatch config none r s
  | .ok (some identity) => dispatch config (some identity) r (s.log (.resolved identity))

theorem respond_eq (config : Config) (r : Request) (s : Session) : respond config r s =
    if r.method = "HEAD" && (Endpoint.ofPath? r.target.path).isSome then
      stripBody (allow r (answer config r s).1) (answer config r s).2
    else (allow r (answer config r s).1, (answer config r s).2) := rfl

/-- What a request does to a session depends on nothing but the request. -/
theorem fulfils_answer (config : Config) (r : Request) (s : Session) :
    Fulfils config s (errand config r) (answer config r s) := by
  unfold answer errand
  cases identify config.trustIdentity r with
  | error refusal => exact fulfils_refuse refusal
  | ok identity =>
    have hdispatch (s : Session) (lines : List Entry) :
        Fulfils config s
          (match Endpoint.ofPath? r.target.path with
            | none => (lines, Errand.nothing)
            | some e =>
              if e.accepts r.method then
                (lines ++ (e.errand config r identity).1, (e.errand config r identity).2)
              else (lines, .nothing))
          (dispatch config identity r (s.logAll lines)) := by
      unfold dispatch
      cases Endpoint.ofPath? r.target.path with
      | none => exact ⟨rfl, _, rfl⟩
      | some e =>
        simp only []
        by_cases ha : e.accepts r.method
        · have hserve : Fulfils config (s.logAll lines) (e.errand config r identity)
              (serve config identity r (s.logAll lines) e) := fulfils_serve identity e
          rw [if_pos ha, if_pos ha, Fulfils, ← Session.logAll_logAll]
          exact hserve
        · rw [if_neg ha, if_neg ha]
          exact ⟨rfl, _, rfl⟩
    cases identity with
    | none =>
      have h := hdispatch s []
      rw [Session.logAll_nil] at h
      exact h
    | some identity => exact hdispatch s [.resolved identity]

/-! ### Steps -/

/-- What can happen to a session behind the router. Nobody unregisters a connection by hand, ends
the hub or cuts a task off. -/
inductive Step
  /-- A request; the body of the answer is kept or dropped at once. -/
  | http (r : Request) (kept : Bool)
  /-- A request of a WebSocket client. If its connection changes its protocol, that may fail. -/
  | connect (r : Request) (failure : Option String)
  | greet (greeting : Nat)
  | hangUp (greeting : Nat) (why : String)
  | read (stream : Nat) (limit : Option Nat)
  | drop (stream : Nat)
  | bytes (task : Nat) (data : List UInt8)
  | lose (task : Nat)
  /-- What a session writes no longer reaches its client. Nothing comes in because of that. -/
  | sever (task : Nat) (why : String)
  | inbound (task : Nat) (frame : Inbound)
  | endInput (task : Nat)
  | publish (d : DomainEvent)
  | handle (d : DomainEvent)
  | advance (milliseconds : Nat)
  /-- Something goes on by itself. -/
  | move (m : Move)
  | settle
  deriving DecidableEq, Repr

/-- The request that a step makes. -/
def Step.request? : Step → Option Request
  | http r _ | connect r _ => some r
  | _ => none

def perform (config : Config) (s : Session) : Step → Session
  | .http r kept =>
    let (response, s) := respond config r s
    match response.body with
    | .events i => if kept then s else s.closeStream i
    | _ => s
  | .connect r failure =>
    let (response, s) := respond config r s
    match response.body with
    | .events i => s.closeStream i
    | .upgrade student =>
      match failure with
      | some why => s.log (.upgradeFailed student why)
      | none => (s.beginGreeting student).2
    | .text _ => s
  | .greet i => (s.finishGreeting i).2
  | .hangUp i why => s.obstructGreeting i why
  | .read i limit => (s.readStream i limit).2
  | .drop i => s.closeStream i
  | .bytes i data => s.feed i data
  | .lose i => s.lose i
  | .sever i why => s.sever i why
  | .inbound i frame => (s.arrive i frame).2
  | .endInput i => s.endInput i
  | .publish d => (s.publish d).2
  | .handle d => (s.handle d).2
  | .advance ms => s.advance ms
  | .move m => if m.cancels then s else s.perform m
  | .settle => s.settle

def run (config : Config) (s : Session) (steps : List Step) : Session :=
  steps.foldl (perform config) s

theorem run_append (config : Config) (s : Session) (first rest : List Step) :
    run config s (first ++ rest) = run config (run config s first) rest := List.foldl_append

@[simp] theorem allow_body (r : Request) (response : Response) :
    (allow r response).body = response.body := by
  unfold allow
  split
  · rfl
  · split <;> rfl

/-- A request that the router does not know is about nothing. -/
theorem errand_of_unknown (hp : Endpoint.ofPath? r.target.path = none) :
    (errand config r).2 = .nothing := by
  unfold errand
  rw [hp]
  split <;> rfl

theorem noticeErrand_ne_upgrade (name : String) (student : StudentId) :
    (noticeErrand name r).2 ≠ .upgrade student := by
  unfold noticeErrand
  grind

theorem method_of_upgrade {student : StudentId} (h : (errand config r).2 = .upgrade student) :
    r.method = "GET" := by
  unfold errand at h
  split at h
  · cases h
  · split at h
    · cases h
    · split at h
      · rename_i identity _ e _ _
        have hnone : Upgrade.objection? r = none := by
          simp only [Endpoint.errand] at h
          grind [noticeErrand_ne_upgrade]
        unfold Upgrade.objection? at hnone
        grind
      · cases h

/-- What is left of an errand when the answer is done: a stream may be closed at once. -/
def Errand.finish (config : Config) (s : Session) (kept : Bool) : Errand → Session
  | .stream a =>
    if kept then (openStream config a s).2
    else (openStream config a s).2.closeStream s.next
  | e => e.run config s

theorem Errand.finish_kept (config : Config) (s : Session) (e : Errand) :
    e.finish config s true = e.run config s := by
  cases e <;> rfl

/-- Stripping the body of an answer closes the stream that was opened for it. -/
theorem stripBody_errand {e : Errand} {response : Response} (h : e.answers s response.body) :
    stripBody response (e.run config s) =
      ({ response with body := .text "" }, e.finish config s false) := by
  cases e with
  | stream a =>
    have hb : response.body = .events s.next := h
    simp only [stripBody, hb]
    rfl
  | upgrade student =>
    have hb : response.body = .upgrade student := h
    simp only [stripBody, hb]
    rfl
  | nothing | publish | figures =>
    obtain ⟨content, hb⟩ := h
    simp only [stripBody, hb]
    rfl

/-- What a request leaves behind, and which body its answer has. -/
theorem respond_errand (config : Config) (r : Request) (s : Session) :
    (respond config r s).2 =
        (errand config r).2.finish config (s.logAll (errand config r).1) (r.method ≠ "HEAD") ∧
      if r.method = "HEAD" then ∃ content, (respond config r s).1.body = .text content
      else (errand config r).2.answers (s.logAll (errand config r).1)
        (respond config r s).1.body := by
  obtain ⟨hsession, hbody⟩ := fulfils_answer config r s
  rw [← allow_body r] at hbody
  rw [respond_eq, hsession]
  by_cases hm : r.method = "HEAD"
  · rw [if_pos hm]
    cases hp : Endpoint.ofPath? r.target.path with
    | some e =>
      have hcond : (decide (r.method = "HEAD") && (some e).isSome) = true := by simp [hm]
      rw [if_pos hcond, stripBody_errand hbody]
      exact ⟨by simp [hm], "", rfl⟩
    | none =>
      have he : (errand config r).2 = .nothing := errand_of_unknown hp
      have hcond : ¬(decide (r.method = "HEAD") && (none : Option Endpoint).isSome) = true := by
        simp
      rw [he] at hbody ⊢
      rw [if_neg hcond]
      exact ⟨rfl, hbody⟩
  · have hcond : ¬(decide (r.method = "HEAD") &&
        (Endpoint.ofPath? r.target.path).isSome) = true := by simp [hm]
    rw [if_neg hm, if_neg hcond, decide_eq_true hm, Errand.finish_kept]
    exact ⟨rfl, hbody⟩

/-- What a request does in a step. -/
theorem perform_http (config : Config) (s : Session) (r : Request) (kept : Bool) :
    perform config s (.http r kept) = (errand config r).2.finish config
      (s.logAll (errand config r).1) (r.method ≠ "HEAD" && kept) := by
  obtain ⟨hsession, hbody⟩ := respond_errand config r s
  simp only [perform]
  by_cases hm : r.method = "HEAD"
  · rw [if_pos hm] at hbody
    obtain ⟨content, hb⟩ := hbody
    rw [hb, hsession]
    simp [hm]
  · rw [if_neg hm] at hbody
    simp only [hm, ne_eq, not_false_eq_true, decide_true, Bool.true_and] at hsession ⊢
    rw [hsession, Errand.finish_kept]
    cases he : (errand config r).2 with
    | stream a =>
      rw [he] at hbody
      have hb : (respond config r s).1.body = .events (s.logAll (errand config r).1).next := hbody
      simp only [hb]
      cases kept <;> rfl
    | upgrade student =>
      rw [he] at hbody
      have hb : (respond config r s).1.body = .upgrade student := hbody
      simp only [hb]
      rfl
    | nothing | publish | figures =>
      rw [he] at hbody
      obtain ⟨content, hb⟩ := hbody
      simp only [hb]
      rfl

/-- What a WebSocket client's request does in a step: only an upgrade that goes through is a
session. -/
theorem perform_connect (config : Config) (s : Session) (r : Request) (failure : Option String) :
    perform config s (.connect r failure) =
      match (errand config r).2, failure with
      | .upgrade student, none => ((s.logAll (errand config r).1).beginGreeting student).2
      | .upgrade student, some why =>
        (s.logAll (errand config r).1).log (.upgradeFailed student why)
      | e, _ => e.finish config (s.logAll (errand config r).1) false := by
  obtain ⟨hsession, hbody⟩ := respond_errand config r s
  simp only [perform]
  by_cases hm : r.method = "HEAD"
  · rw [if_pos hm] at hbody
    obtain ⟨content, hb⟩ := hbody
    simp only [hb, hsession, hm, ne_eq, not_true_eq_false, decide_false]
    cases he : (errand config r).2 with
    | upgrade student =>
      have hget := method_of_upgrade he
      rw [hm] at hget
      exact absurd hget (by decide)
    | _ => rfl
  · rw [if_neg hm] at hbody
    simp only [hm, ne_eq, not_false_eq_true, decide_true] at hsession
    rw [hsession, Errand.finish_kept]
    cases he : (errand config r).2 with
    | stream a =>
      rw [he] at hbody
      have hb : (respond config r s).1.body = .events (s.logAll (errand config r).1).next := hbody
      simp only [hb]
      rfl
    | upgrade student =>
      rw [he] at hbody
      have hb : (respond config r s).1.body = .upgrade student := hbody
      simp only [hb]
      cases failure <;> rfl
    | nothing | publish | figures =>
      rw [he] at hbody
      obtain ⟨content, hb⟩ := hbody
      simp only [hb]
      rfl

end Web
end LiveUpdate
