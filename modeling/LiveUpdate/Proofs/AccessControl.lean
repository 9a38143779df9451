import LiveUpdate.Proofs.Intake

/-! Who may do what through the router. Whatever the hub, a request makes it do only what its path,
its method and its identity entitle it to; all else leaves the hub alone, and is refused before
anything but these three is looked at. -/
namespace LiveUpdate.Web

/-! ### Endpoints -/

namespace Endpoint

def path : Endpoint → String
  | health => "/health"
  | studentEvents => "/student/api/events"
  | adminEvents => "/admin/events"
  | notify => "/admin/notify"
  | liveStats => "/admin/live/stats"

theorem path_of_ofPath? {path : String} {e : Endpoint} (h : ofPath? path = some e) :
    path = e.path := by
  unfold ofPath? at h
  grind [Endpoint.path]

/-- Whether an endpoint is for somebody of this identity. -/
def admits : Endpoint → Identity → Bool
  | health, _ => true
  | studentEvents, .student _ => true
  | studentEvents, .admin _ => false
  | _, .student _ => false
  | _, .admin _ => true

end Endpoint

/-! ### Identities that cannot be understood -/

/-- The text of a header that is filled in, without the blanks around it. -/
def Request.claims (r : Request) (name : String) (text : List Char) : Prop :=
  text ≠ [] ∧ ((r.header? name).bind headerText?).map Text.trimBlanks = some text

/-- Whether the identity headers make no sense: one of them is no text, both are filled in, or that
of a student is not the number of one. -/
def Request.Malformed (r : Request) : Prop :=
  (∃ name ∈ [studentHeader, adminHeader], ∃ value,
    r.header? name = some value ∧ headerText? value = none) ∨
  ∃ student, r.claims studentHeader student ∧
    ((∃ admin, r.claims adminHeader admin) ∨ studentOfText? student = none)

variable {config : Config} {r : Request}

theorem presentText?_of_unreadable {name : String} {value : List UInt8}
    (hvalue : r.header? name = some value) (htext : headerText? value = none) :
    presentText? r name = .error (.of (.badRequest (name ++ " is not valid text"))) := by
  simp only [presentText?, hvalue, htext]

theorem presentText?_of_claims {name : String} {text : List Char} (h : r.claims name text) :
    presentText? r name = .ok (some text) := by
  obtain ⟨hne, hclaim⟩ := h
  obtain ⟨raw, hraw, rfl⟩ := Option.map_eq_some_iff.mp hclaim
  obtain ⟨value, hvalue, htext⟩ := Option.bind_eq_some_iff.mp hraw
  simp only [presentText?, hvalue, htext, if_neg hne]

theorem presentText?_error {name : String} {refusal : Refusal}
    (h : presentText? r name = .error refusal) : ∃ reason, refusal = .of (.badRequest reason) := by
  unfold presentText? at h
  split at h
  · cases h
  · split at h
    · cases h
      exact ⟨_, rfl⟩
    · cases h

/-- An identity that is refused is refused as a bad request. -/
theorem identityOfHeaders_error {refusal : Refusal} (h : identityOfHeaders r = .error refusal) :
    ∃ reason, refusal = .of (.badRequest reason) := by
  unfold identityOfHeaders at h
  cases hs : presentText? r studentHeader with
  | error why =>
    rw [hs] at h
    cases h
    exact presentText?_error hs
  | ok student =>
    cases ha : presentText? r adminHeader with
    | error why =>
      rw [hs, ha] at h
      cases h
      exact presentText?_error ha
    | ok admin =>
      simp only [hs, ha, bind, Except.bind] at h
      split at h
      · cases h
      · cases h
        exact ⟨_, rfl⟩
      · split at h
        · cases h
        · cases h
          exact ⟨_, rfl⟩
      · cases h

theorem identityOfHeaders_of_malformed (h : r.Malformed) :
    ∃ refusal, identityOfHeaders r = .error refusal := by
  unfold identityOfHeaders
  rcases h with ⟨name, hname, value, hvalue, htext⟩ | ⟨student, hstudent, hrest⟩
  · have herror := presentText?_of_unreadable hvalue htext
    rcases List.mem_cons.mp hname with rfl | hname
    · exact ⟨_, by rw [herror]; rfl⟩
    · rw [List.mem_singleton.mp hname] at herror
      cases presentText? r studentHeader with
      | error why => exact ⟨why, rfl⟩
      | ok student => exact ⟨_, by rw [herror]; rfl⟩
  · rw [presentText?_of_claims hstudent]
    cases ha : presentText? r adminHeader with
    | error why => exact ⟨why, rfl⟩
    | ok admin =>
      cases admin with
      | some name => exact ⟨_, rfl⟩
      | none =>
        have hnot : studentOfText? student = none := by
          refine hrest.resolve_left fun hadmin => ?_
          obtain ⟨admin, hadmin⟩ := hadmin
          rw [presentText?_of_claims hadmin] at ha
          cases ha
        simp only [bind, Except.bind, hnot]
        exact ⟨_, rfl⟩

/-! ### What a request is entitled to -/

/-- What an identity may have the hub let in, at which path and by which method. -/
def Entitled (config : Config) (r : Request) : Command → Prop
  | .register _ (.student id) =>
    r.target.path = "/student/api/events" ∧ (r.method = "GET" ∨ r.method = "HEAD") ∧
      identify config.trustIdentity r = .ok (some (.student id))
  | .register _ .unfiltered =>
    r.target.path = "/admin/events" ∧ (r.method = "GET" ∨ r.method = "HEAD") ∧
      ∃ name, identify config.trustIdentity r = .ok (some (.admin name))
  | .send _ =>
    r.target.path = "/admin/notify" ∧ r.method = "POST" ∧
      ∃ name, identify config.trustIdentity r = .ok (some (.admin name))
  | _ => False

/-- Whether a request may be told the figures of the hub. -/
def MayReadFigures (config : Config) (r : Request) : Prop :=
  r.target.path = "/admin/live/stats" ∧ (r.method = "GET" ∨ r.method = "HEAD") ∧
    ∃ name, identify config.trustIdentity r = .ok (some (.admin name))

/-- Which errand somebody can have at an endpoint. -/
def Errand.Suits : Errand → Endpoint → Identity → Prop
  | .nothing, _, _ => True
  | .stream a, e, who =>
    (∃ id, a = .student id ∧ e = .studentEvents ∧ who = .student id) ∨
      a = .unfiltered ∧ e = .adminEvents ∧ ∃ name, who = .admin name
  | .upgrade student, e, who => e = .studentEvents ∧ who = .student student
  | .publish _, e, who => e = .notify ∧ ∃ name, who = .admin name
  | .figures, e, who => e = .liveStats ∧ ∃ name, who = .admin name

theorem noticeErrand_suits (name : String) (r : Request) :
    (noticeErrand name r).2.Suits .notify (.admin name) := by
  unfold noticeErrand
  split
  · trivial
  · simp only []
    split
    · trivial
    · split
      · trivial
      · exact ⟨rfl, name, rfl⟩

theorem Endpoint.errand_suits (config : Config) (r : Request) (e : Endpoint) (who : Identity) :
    (e.errand config r (some who)).2.Suits e who := by
  cases e with
  | health => trivial
  | studentEvents =>
    cases who with
    | admin name => trivial
    | student id =>
      simp only [Endpoint.errand]
      cases config.studentTransport with
      | sse => exact Or.inl ⟨id, rfl, rfl, rfl⟩
      | webSocket =>
        simp only []
        split
        · trivial
        · exact ⟨rfl, rfl⟩
  | adminEvents =>
    cases who with
    | admin name => exact Or.inr ⟨rfl, rfl, name, rfl⟩
    | student id => trivial
  | notify =>
    cases who with
    | admin name => exact noticeErrand_suits name r
    | student id => trivial
  | liveStats =>
    cases who with
    | admin name => exact ⟨rfl, name, rfl⟩
    | student id => trivial

theorem accepts_iff (e : Endpoint) (method : String) : e.accepts method = true ↔
    if e = .notify then method = "POST" else method = "GET" ∨ method = "HEAD" := by
  cases e <;> simp [Endpoint.accepts, Endpoint.methods]

/-- A request that is about something has an endpoint that takes it and an identity that suits. -/
theorem errand_suits (h : (errand config r).2 ≠ .nothing) : ∃ e who,
    r.target.path = e.path ∧
      (if e = .notify then r.method = "POST" else r.method = "GET" ∨ r.method = "HEAD") ∧
      identify config.trustIdentity r = .ok (some who) ∧ (errand config r).2.Suits e who := by
  unfold errand at h ⊢
  cases hi : identify config.trustIdentity r with
  | error refusal => simp [hi] at h
  | ok identity =>
    cases hp : Endpoint.ofPath? r.target.path with
    | none => simp [hi, hp] at h
    | some e =>
      by_cases ha : e.accepts r.method = true
      · simp only [hi, hp, if_pos ha] at h ⊢
        cases identity with
        | none => cases e <;> exact absurd rfl h
        | some who =>
          exact ⟨e, who, Endpoint.path_of_ofPath? hp, (accepts_iff e r.method).mp ha, rfl,
            e.errand_suits config r who⟩
      · simp [hi, hp, ha] at h

theorem entitled_stream {a : Audience} (h : (errand config r).2 = .stream a) (c : ConnectionId) :
    Entitled config r (.register c a) := by
  obtain ⟨e, who, hpath, hmethod, hi, hsuits⟩ := errand_suits (by rw [h]; nofun)
  rw [h] at hsuits
  rcases hsuits with ⟨id, rfl, rfl, rfl⟩ | ⟨rfl, rfl, name, rfl⟩
  · exact ⟨hpath, hmethod, hi⟩
  · exact ⟨hpath, hmethod, name, hi⟩

theorem entitled_upgrade {student : StudentId} (h : (errand config r).2 = .upgrade student)
    (c : ConnectionId) : Entitled config r (.register c (.student student)) := by
  obtain ⟨e, who, hpath, hmethod, hi, hsuits⟩ := errand_suits (by rw [h]; nofun)
  rw [h] at hsuits
  obtain ⟨rfl, rfl⟩ := hsuits
  exact ⟨hpath, hmethod, hi⟩

theorem entitled_publish {d : DomainEvent} (h : (errand config r).2 = .publish d) (m : Message) :
    Entitled config r (.send m) := by
  obtain ⟨e, who, hpath, hmethod, hi, hsuits⟩ := errand_suits (by rw [h]; nofun)
  rw [h] at hsuits
  obtain ⟨rfl, name, rfl⟩ := hsuits
  exact ⟨hpath, hmethod, name, hi⟩

theorem entitled_figures (h : (errand config r).2 = .figures) : MayReadFigures config r := by
  obtain ⟨e, who, hpath, hmethod, hi, hsuits⟩ := errand_suits (by rw [h]; nofun)
  rw [h] at hsuits
  obtain ⟨rfl, name, rfl⟩ := hsuits
  exact ⟨hpath, hmethod, name, hi⟩

/-! ### What a request lets in -/

theorem report_entries (refusal : Refusal) : ∀ entry ∈ refusal.report, entry.fromLoop = false := by
  unfold Refusal.report
  split
  · simp [Entry.fromLoop]
  · exact List.forall_mem_nil _

theorem noticeErrand_entries (name : String) (r : Request) :
    ∀ entry ∈ (noticeErrand name r).1, entry.fromLoop = false := by
  unfold noticeErrand
  split
  · exact List.forall_mem_nil _
  · simp only []
    split
    · exact report_entries (.of (.unprocessable "notification text is empty"))
    · split
      · rename_i why _
        exact report_entries (.ofFault why.toFault)
      · simp [Entry.fromLoop]

theorem Endpoint.errand_entries (config : Config) (r : Request) (e : Endpoint)
    (identity : Option Identity) :
    ∀ entry ∈ (e.errand config r identity).1, entry.fromLoop = false := by
  have hrefused (first : Entry) (hfirst : first.fromLoop = false) (refusal : Refusal) :
      ∀ entry ∈ first :: refusal.report, entry.fromLoop = false := by
    intro entry hentry
    rcases List.mem_cons.mp hentry with rfl | hentry
    · exact hfirst
    · exact report_entries refusal entry hentry
  cases e with
  | health => exact List.forall_mem_nil _
  | studentEvents =>
    rcases identity with _ | (id | name)
    · exact report_entries (.of .unauthenticated)
    · simp only [Endpoint.errand]
      cases config.studentTransport with
      | sse => simp [Entry.fromLoop]
      | webSocket =>
        simp only []
        split <;> simp [Entry.fromLoop]
    · exact hrefused _ rfl (.of .forbidden)
  | adminEvents =>
    rcases identity with _ | (id | name)
    · exact report_entries (.of .unauthenticated)
    · exact hrefused _ rfl (.of .forbidden)
    · simp [Endpoint.errand, Entry.fromLoop]
  | notify =>
    rcases identity with _ | (id | name)
    · exact report_entries (.of .unauthenticated)
    · exact hrefused _ rfl (.of .forbidden)
    · exact noticeErrand_entries name r
  | liveStats =>
    rcases identity with _ | (id | name)
    · exact report_entries (.of .unauthenticated)
    · exact hrefused _ rfl (.of .forbidden)
    · exact List.forall_mem_nil _

/-- The lines of a request are none of the loop. -/
theorem errand_entries (config : Config) (r : Request) :
    ∀ entry ∈ (errand config r).1, entry.fromLoop = false := by
  unfold errand
  cases identify config.trustIdentity r with
  | error refusal => exact report_entries refusal
  | ok identity =>
    have hresolved : ∀ entry ∈ (identity.map Entry.resolved).toList, entry.fromLoop = false := by
      cases identity <;> simp [Entry.fromLoop]
    cases Endpoint.ofPath? r.target.path with
    | none => exact hresolved
    | some e =>
      simp only []
      split
      · intro entry hentry
        rcases List.mem_append.mp hentry with hentry | hentry
        · exact hresolved entry hentry
        · exact e.errand_entries config r identity entry hentry
      · exact hresolved

/-- What an errand may let in. -/
def Errand.Lets : Errand → Command → Prop
  | .stream a, command => ∃ c, command = .register c a
  | .upgrade student, command => ∃ c, command = .register c (.student student)
  | .publish _, command => ∃ m, command = .send m
  | _, _ => False

theorem entitled_of_lets {command : Command} (h : (errand config r).2.Lets command) :
    Entitled config r command := by
  cases he : (errand config r).2 with
  | stream a =>
    rw [he] at h
    obtain ⟨c, rfl⟩ := h
    exact entitled_stream he c
  | upgrade student =>
    rw [he] at h
    obtain ⟨c, rfl⟩ := h
    exact entitled_upgrade he c
  | publish d =>
    rw [he] at h
    obtain ⟨m, rfl⟩ := h
    exact entitled_publish he m
  | _ =>
    rw [he] at h
    exact h.elim

theorem intake_openStream (config : Config) (s : Session) (a : Audience) : ∃ commands,
    (openStream config a s).2.hub.intake = s.hub.intake ++ commands ∧
      ∀ command ∈ commands, ∃ c, command = .register c a := by
  have hregistered : (openStream config a s).2.hub.intake = (s.hub.register a).2.intake := rfl
  rw [hregistered, Hub.intake_register]
  refine ⟨_, rfl, fun command hcommand => ?_⟩
  split at hcommand
  · exact ⟨_, List.mem_singleton.mp hcommand⟩
  · cases hcommand

theorem finish_intake (config : Config) (s : Session) (kept : Bool) (e : Errand) : ∃ commands,
    (e.finish config s kept).hub.intake = s.hub.intake ++ commands ∧
      ∀ command ∈ commands, e.Lets command := by
  have hnone : ∃ commands, s.hub.intake = s.hub.intake ++ commands ∧
      ∀ command ∈ commands, e.Lets command :=
    ⟨[], (List.append_nil _).symm, List.forall_mem_nil _⟩
  cases e with
  | nothing => exact hnone
  | upgrade student => exact hnone
  | figures =>
    obtain ⟨commands, hcommands, hlets⟩ := hnone
    exact ⟨commands, (s.intake_stats).trans hcommands, hlets⟩
  | publish d =>
    obtain ⟨messages, hmessages⟩ := s.intake_publish d
    refine ⟨_, hmessages, fun command hcommand => ?_⟩
    obtain ⟨m, -, rfl⟩ := List.mem_map.mp hcommand
    exact ⟨m, rfl⟩
  | stream a =>
    cases kept with
    | true => exact intake_openStream config s a
    | false =>
      obtain ⟨commands, hcommands, hlets⟩ := intake_openStream config s a
      exact ⟨commands, (Session.intake_closeStream _ _).trans hcommands, hlets⟩

/-- What a request has the hub let in, it is entitled to. -/
theorem request_intake (config : Config) (s : Session) {x : Step} (hx : x.request? = some r) :
    ∃ commands, (perform config s x).hub.intake = s.hub.intake ++ commands ∧
      ∀ command ∈ commands, Entitled config r command := by
  have hlogged : (s.logAll (errand config r).1).hub.intake = s.hub.intake :=
    Hub.intake_logAll fun entry hentry =>
      Entry.intake?_of_outside (errand_entries config r entry hentry)
  have hfinish (kept : Bool) : ∃ commands,
      ((errand config r).2.finish config (s.logAll (errand config r).1) kept).hub.intake =
          s.hub.intake ++ commands ∧
        ∀ command ∈ commands, Entitled config r command := by
    obtain ⟨commands, hcommands, hlets⟩ :=
      finish_intake config (s.logAll (errand config r).1) kept (errand config r).2
    rw [hlogged] at hcommands
    exact ⟨commands, hcommands, fun command hmem => entitled_of_lets (hlets command hmem)⟩
  cases x with
  | http r₀ kept =>
    obtain rfl : r₀ = r := Option.some.inj hx
    rw [perform_http]
    exact hfinish _
  | connect r₀ failure =>
    obtain rfl : r₀ = r := Option.some.inj hx
    have hconnect := hfinish false
    rw [perform_connect]
    cases he : (errand config r₀).2 with
    | upgrade student =>
      cases failure with
      | some why =>
        refine ⟨[], ?_, List.forall_mem_nil _⟩
        rw [List.append_nil, ← hlogged]
        exact Hub.intake_logAll (by simp [Entry.intake?])
      | none =>
        have hregistered := Hub.intake_register (s.logAll (errand config r₀).1).hub
          (.student student)
        rw [hlogged] at hregistered
        refine ⟨_, hregistered, fun command hcommand => ?_⟩
        split at hcommand
        · rw [List.mem_singleton.mp hcommand]
          exact entitled_upgrade he _
        · cases hcommand
    | _ =>
      rw [he] at hconnect
      exact hconnect
  | _ => cases hx

/-! ### Responses -/

/-- A response as it leaves the router. -/
def finished (r : Request) (response : Response) : Response :=
  if r.method = "HEAD" && (Endpoint.ofPath? r.target.path).isSome then
    { allow r response with body := .text "" }
  else allow r response

theorem respond_response (config : Config) (r : Request) (s : Session) :
    (respond config r s).1 = finished r (answer config r s).1 := by
  rw [respond_eq, finished]
  split <;> rfl

@[simp] theorem finished_status (r : Request) (response : Response) :
    (finished r response).status = response.status := by
  have hallow : (allow r response).status = response.status := by
    unfold allow
    split
    · rfl
    · split <;> rfl
  unfold finished
  split <;> exact hallow

/-- No endpoint looks at the hub for its response, but for the one that is asked for the figures. -/
theorem serve_congr {s s' : Session} (hnext : s'.next = s.next) {identity : Option Identity}
    {e : Endpoint} (h : e = .liveStats → ∀ name, identity ≠ some (.admin name)) :
    (serve config identity r s' e).1 = (serve config identity r s e).1 := by
  have hopened (a : Audience) (line : Entry) :
      (openEvents config a (s'.log line)).1 = (openEvents config a (s.log line)).1 := by
    show (⟨200, _, .events s'.next⟩ : Response) = ⟨200, _, .events s.next⟩
    rw [hnext]
  cases e with
  | health => rfl
  | studentEvents =>
    rcases identity with _ | (id | name)
    · rfl
    · simp only [serve, serveStudent, requireStudent]
      cases config.studentTransport with
      | sse => exact hopened (.student id) (.studentStream id)
      | webSocket =>
        simp only []
        split <;> rfl
    · rfl
  | adminEvents =>
    rcases identity with _ | (id | name)
    · rfl
    · rfl
    · exact hopened .unfiltered (.adminStream name)
  | notify =>
    rcases identity with _ | (id | name)
    · rfl
    · rfl
    · simp only [serve, serveNotify, requireAdmin]
      split
      · rfl
      · split
        · rfl
        · split <;> rfl
  | liveStats =>
    rcases identity with _ | (id | name)
    · rfl
    · rfl
    · exact absurd rfl (h rfl name)

theorem answer_congr {s s' : Session} (hnext : s'.next = s.next) (h : ¬MayReadFigures config r) :
    (answer config r s').1 = (answer config r s).1 := by
  have hdispatch {t t' : Session} (ht : t'.next = t.next) (identity : Option Identity)
      (hi : identify config.trustIdentity r = .ok identity) :
      (dispatch config identity r t').1 = (dispatch config identity r t).1 := by
    unfold dispatch
    cases hp : Endpoint.ofPath? r.target.path with
    | none => rfl
    | some e =>
      simp only []
      split
      · rename_i ha
        refine serve_congr ht fun he name hname => h ?_
        subst he hname
        exact ⟨Endpoint.path_of_ofPath? hp, (accepts_iff .liveStats r.method).mp ha, name, hi⟩
      · rfl
  unfold answer
  cases hi : identify config.trustIdentity r with
  | error refusal => rfl
  | ok identity =>
    cases identity with
    | none => exact hdispatch hnext none hi
    | some who => exact @hdispatch (s.log _) (s'.log _) hnext (some who) hi

theorem respond_congr {s s' : Session} (hnext : s'.next = s.next) (h : ¬MayReadFigures config r) :
    (respond config r s').1 = (respond config r s).1 := by
  rw [respond_response, respond_response, answer_congr hnext h]

/-- A request that is about something is not refused. -/
theorem serve_status {identity : Option Identity} {e : Endpoint} (s : Session)
    (h : (e.errand config r identity).2 ≠ .nothing) :
    (serve config identity r s e).1.status < 400 := by
  cases e with
  | health => exact absurd rfl h
  | studentEvents =>
    rcases identity with _ | (id | name)
    · exact absurd rfl h
    · simp only [serve, serveStudent, requireStudent, Endpoint.errand] at h ⊢
      cases ht : config.studentTransport with
      | sse => exact (by decide : 200 < 400)
      | webSocket =>
        cases ho : Upgrade.objection? r with
        | some objection => simp [ht, ho] at h
        | none => exact (by decide : 101 < 400)
    · exact absurd rfl h
  | adminEvents =>
    rcases identity with _ | (id | name)
    · exact absurd rfl h
    · exact absurd rfl h
    · exact (by decide : 200 < 400)
  | notify =>
    rcases identity with _ | (id | name)
    · exact absurd rfl h
    · exact absurd rfl h
    · simp only [serve, serveNotify, requireAdmin, Endpoint.errand, noticeErrand] at h ⊢
      cases ht : notificationText r with
      | error response => simp [ht] at h
      | ok text =>
        by_cases hm : String.ofList (Text.trimBlanks text.toList) = ""
        · simp [ht, hm] at h
        · simp only [ht, if_neg hm] at h ⊢
          cases hn : Event.notify (String.ofList (Text.trimBlanks text.toList)) with
          | error why => simp [hn] at h
          | ok e => exact (by decide : 303 < 400)
  | liveStats =>
    rcases identity with _ | (id | name)
    · exact absurd rfl h
    · exact absurd rfl h
    · exact (by decide : 200 < 400)

theorem respond_status (s : Session) (h : (errand config r).2 ≠ .nothing) :
    (respond config r s).1.status < 400 := by
  rw [respond_response, finished_status]
  unfold errand at h
  unfold answer dispatch
  cases hi : identify config.trustIdentity r with
  | error refusal => simp [hi] at h
  | ok identity =>
    cases hp : Endpoint.ofPath? r.target.path with
    | none => simp [hi, hp] at h
    | some e =>
      by_cases ha : e.accepts r.method = true
      · simp only [hi, hp, if_pos ha] at h ⊢
        cases identity <;> exact serve_status _ h
      · simp [hi, hp, ha] at h

/-! ### Requests that are turned away -/

/-- What somebody is told for whom an endpoint is not. -/
def objectionTo : Option Identity → Refusal
  | none => .of .unauthenticated
  | some _ => .of .forbidden

theorem serve_turnedAway (config : Config) (r : Request) {identity : Option Identity}
    {e : Endpoint} (he : e ≠ .health) (h : ∀ who, identity = some who → e.admits who = false) :
    ∃ lines, ∀ (r' : Request) (s : Session), r'.target = r.target →
      serve config identity r' s e = ((objectionTo identity).response, s.logAll lines) := by
  cases identity with
  | none =>
    refine ⟨[], fun r' s _ => ?_⟩
    cases e with
    | health => exact absurd rfl he
    | _ => rfl
  | some who =>
    have hwho := h who rfl
    cases e with
    | health => exact absurd rfl he
    | studentEvents =>
      cases who with
      | student id => cases hwho
      | admin name =>
        refine ⟨[.adminRejected name r.target.display], fun r' s hr' => ?_⟩
        rw [← hr']
        exact congrArg (Prod.mk _) (Session.logAll_nil _)
    | _ =>
      cases who with
      | admin name => cases hwho
      | student id =>
        refine ⟨[.studentRejected id r.target.display], fun r' s hr' => ?_⟩
        rw [← hr']
        exact congrArg (Prod.mk _) (Session.logAll_nil _)

theorem answer_of_served {identity : Option Identity} {e : Endpoint} {response : Response}
    {lines : List Entry} (hi : identify config.trustIdentity r = .ok identity)
    (hp : Endpoint.ofPath? r.target.path = some e) (ha : e.accepts r.method = true)
    (hserve : ∀ s, serve config identity r s e = (response, s.logAll lines)) (s : Session) :
    answer config r s = (response, s.logAll ((identity.map Entry.resolved).toList ++ lines)) := by
  unfold answer dispatch
  cases identity with
  | none =>
    simp only [hi, hp, if_pos ha, hserve]
    rfl
  | some who =>
    simp only [hi, hp, if_pos ha, hserve, Session.log_eq, Session.logAll_logAll]
    rfl

/-- Whoever an endpoint is not for is turned away before anything else of the request counts. -/
theorem respond_turnedAway (s : Session) {e : Endpoint} {identity : Option Identity}
    (hp : Endpoint.ofPath? r.target.path = some e) (he : e ≠ .health)
    (ha : e.accepts r.method = true) (hi : identify config.trustIdentity r = .ok identity)
    (h : ∀ who, identity = some who → e.admits who = false) :
    (respond config r s).1.status = (objectionTo identity).response.status ∧
      ∀ r' : Request, r'.method = r.method → r'.target = r.target →
        identify config.trustIdentity r' = .ok identity → respond config r' s = respond config r s := by
  obtain ⟨lines, hserve⟩ := serve_turnedAway config r he h
  have hanswer := answer_of_served hi hp ha (fun s => hserve r s rfl) s
  constructor
  · rw [respond_response, finished_status, hanswer]
  · intro r' hmethod htarget hi'
    have hanswer' := answer_of_served hi' (htarget ▸ hp) (hmethod ▸ ha)
      (fun s => hserve r' s htarget) s
    simp only [respond_eq, hanswer, hanswer', allow, hmethod, htarget]

/-- Identity headers that make no sense are answered before path and method are looked at. -/
theorem respond_malformed (htrust : config.trustIdentity = true) (h : r.Malformed) (s : Session) :
    (respond config r s).1.status = 400 := by
  obtain ⟨refusal, herror⟩ := identityOfHeaders_of_malformed h
  obtain ⟨reason, rfl⟩ := identityOfHeaders_error herror
  have hi : identify config.trustIdentity r = .error (.of (.badRequest reason)) := by
    rw [identify, if_pos htrust, herror]
  rw [respond_response, finished_status, answer, hi]
  rfl

/-- A request that is about nothing, or whose connection does not change its protocol after all,
leaves lines of the journal. -/
theorem perform_of_nothing {x : Step} (hx : x.request? = some r)
    (h : (errand config r).2 = .nothing) (s : Session) :
    perform config s x = s.logAll (errand config r).1 := by
  cases x with
  | http r₀ kept =>
    obtain rfl : r₀ = r := Option.some.inj hx
    rw [perform_http, h]
    rfl
  | connect r₀ failure =>
    obtain rfl : r₀ = r := Option.some.inj hx
    rw [perform_connect, h]
    rfl
  | _ => cases hx

/-! ### Runs -/

/-- Why a step may have a command let in: it publishes, or it is a request that is entitled. -/
def Step.Warrants (config : Config) (x : Step) (command : Command) : Prop :=
  (∃ m, command = .send m) ∨ ∃ r, x.request? = some r ∧ Entitled config r command

theorem step_intake (config : Config) (s : Session) (x : Step) : ∃ commands,
    (perform config s x).hub.intake = s.hub.intake ++ commands ∧
      ∀ command ∈ commands, x.Warrants config command := by
  have hsame (h : (perform config s x).hub.intake = s.hub.intake) : ∃ commands,
      (perform config s x).hub.intake = s.hub.intake ++ commands ∧
        ∀ command ∈ commands, x.Warrants config command :=
    ⟨[], by rw [h, List.append_nil], List.forall_mem_nil _⟩
  have hsent {messages : List Message}
      (h : (perform config s x).hub.intake = s.hub.intake ++ messages.map .send) : ∃ commands,
      (perform config s x).hub.intake = s.hub.intake ++ commands ∧
        ∀ command ∈ commands, x.Warrants config command := by
    refine ⟨_, h, fun command hcommand => ?_⟩
    obtain ⟨m, -, rfl⟩ := List.mem_map.mp hcommand
    exact Or.inl ⟨m, rfl⟩
  have hinternal (h : ∀ happening ∈ course config s x, happening.isInternal = true) := hsame <| by
    rw [s.webStep_hub config x]
    exact Hub.intake_undergo h
  cases hx : x.request? with
  | some r =>
    obtain ⟨commands, hcommands, hentitled⟩ := request_intake config s hx
    exact ⟨commands, hcommands, fun command hmem => Or.inr ⟨r, hx, hentitled command hmem⟩⟩
  | none =>
    cases x with
    | http r kept => cases hx
    | connect r failure => cases hx
    | publish d => exact hsent (s.intake_publish d).choose_spec
    | handle d => exact hsent (s.intake_handle d).choose_spec
    | settle => exact hsame s.intake_settle
    | advance ms => exact hsame (Session.intake_settle { s with clock := s.clock + ms })
    | move m =>
      refine hsame ?_
      simp only [perform]
      split
      · rfl
      · exact s.intake_perform m
    | read i limit => exact hinternal (s.readCourse_internal i limit)
    | drop i => exact hinternal (s.closeCourse_internal i)
    | greet i =>
      refine hinternal ?_
      simp only [course]
      split
      · simp [Hub.Happening.isInternal, Entry.fromLoop]
      · exact List.forall_mem_nil _
    | _ => exact hinternal (List.forall_mem_nil _)

theorem run_intake (config : Config) (s : Session) (steps : List Step) : ∃ commands,
    (run config s steps).hub.intake = s.hub.intake ++ commands ∧
      ∀ command ∈ commands, ∃ x ∈ steps, x.Warrants config command := by
  induction steps generalizing s with
  | nil => exact ⟨[], (List.append_nil _).symm, List.forall_mem_nil _⟩
  | cons x rest ih =>
    obtain ⟨first, hfirst, hx⟩ := step_intake config s x
    obtain ⟨later, hlater, hrest⟩ := ih (perform config s x)
    refine ⟨first ++ later, ?_, fun command hcommand => ?_⟩
    · rw [← List.append_assoc, ← hfirst]
      exact hlater
    · rcases List.mem_append.mp hcommand with hmem | hmem
      · exact ⟨x, List.mem_cons_self, hx command hmem⟩
      · obtain ⟨y, hy, hwarrants⟩ := hrest command hmem
        exact ⟨y, List.mem_cons_of_mem _ hy, hwarrants⟩

theorem run_vouched (config : Config) {s : Session} (h : s.hub.Vouched) (steps : List Step) :
    (run config s steps).hub.Vouched := by
  induction steps generalizing s with
  | nil => exact h
  | cons x rest ih =>
    refine ih (s := perform config s x) ?_
    rw [s.webStep_hub config x]
    exact h.undergo _

/-- Whoever is in the table got there by a request that was entitled. -/
theorem registered_entitled {config : Config} {start : Session}
    (h : Session.ofConfig? config = .ok start) (steps : List Step) {c : ConnectionId}
    {a : Audience} (hc : (run config start steps).hub.registry.audiences.get? c = some a) :
    ∃ x ∈ steps, ∃ r, x.request? = some r ∧ Entitled config r (.register c a) := by
  have hstart : start.hub.intake = [] ∧ start.hub.Vouched := by
    unfold Session.ofConfig? Session.start? at h
    split at h <;> cases h
    exact ⟨rfl, fun c a hc => by cases hc⟩
  obtain ⟨commands, hcommands, hwarranted⟩ := run_intake config start steps
  have hmem := (run_vouched config hstart.2 steps).mem_intake hc
  rw [hcommands, hstart.1, List.nil_append] at hmem
  obtain ⟨x, hx, ⟨m, hm⟩ | hentitled⟩ := hwarranted _ hmem
  · cases hm
  · exact ⟨x, hx, hentitled⟩

/-! ### Access control -/

/-- What is promised of a request that meets one session, gets a response and leaves another. -/
structure Controlled (config : Config) (r : Request) (s after : Session) (response : Response) :
    Prop where
  /-- What is let in, the request is entitled to. -/
  entered : ∃ commands, after.hub.intake = s.hub.intake ++ commands ∧
    ∀ command ∈ commands, Entitled config r command
  /-- Who may not read the figures gets a response in which there is nothing of the hub. -/
  figures : ¬MayReadFigures config r → ∀ s' : Session, s'.next = s.next →
    (respond config r s').1 = response
  /-- Who is entitled to nothing leaves the hub and all else as they were. -/
  untouched : (∀ command, ¬Entitled config r command) → ¬MayReadFigures config r →
    ∃ lines, after = s.logAll lines
  /-- So does a request that is refused for whatever reason. -/
  refused : 400 ≤ response.status → ∃ lines, after = s.logAll lines
  /-- Somebody unknown and somebody of the other role are turned away from an endpoint, whatever the
  body, the other headers and the connection of the request are. -/
  roles : ∀ e identity, Endpoint.ofPath? r.target.path = some e → e ≠ .health →
    e.accepts r.method = true → identify config.trustIdentity r = .ok identity →
    (∀ who, identity = some who → e.admits who = false) →
    response.status = (if identity = none then 401 else 403) ∧
      ∀ r' : Request, r'.method = r.method → r'.target = r.target →
        identify config.trustIdentity r' = .ok identity → respond config r' s = respond config r s
  /-- Identity headers that count and make no sense are answered so at every path. -/
  malformed : config.trustIdentity = true → r.Malformed → response.status = 400

/-- Access control of everything that a request can do. In every session, whatever its state, and
for every request over HTTP or by a WebSocket client: nothing is registered, published or told but
to those who are entitled to it, and everybody else leaves the session as it was. In every run that
begins with a fresh session, whoever is in the table got there by a request that was entitled. -/
theorem effects_authorized (config : Config) :
    (∀ s x r, Step.request? x = some r →
      Controlled config r s (perform config s x) (respond config r s).1) ∧
    ∀ start steps, Session.ofConfig? config = .ok start →
      ∀ c a, (run config start steps).hub.registry.audiences.get? c = some a →
        ∃ x ∈ steps, ∃ r, x.request? = some r ∧ Entitled config r (.register c a) := by
  refine ⟨?_, fun start steps h c a hc => registered_entitled h steps hc⟩
  intro s x r hx
  refine ⟨request_intake config s hx, fun hnot s' hnext => respond_congr hnext hnot, ?_, ?_, ?_,
    fun htrust hr => respond_malformed htrust hr s⟩
  · intro hnone hfigures
    have hnothing : (errand config r).2 = .nothing := by
      cases he : (errand config r).2 with
      | nothing => rfl
      | stream a => exact absurd (entitled_stream he ⟨0⟩) (hnone _)
      | upgrade student => exact absurd (entitled_upgrade he ⟨0⟩) (hnone _)
      | publish d => exact absurd (entitled_publish he ⟨.broadcast, .hello⟩) (hnone _)
      | figures => exact absurd (entitled_figures he) hfigures
    exact ⟨_, perform_of_nothing hx hnothing s⟩
  · intro hstatus
    have hnothing : (errand config r).2 = .nothing := by
      by_contra hne
      exact Nat.not_lt.mpr hstatus (respond_status s hne)
    exact ⟨_, perform_of_nothing hx hnothing s⟩
  · intro e identity hp he ha hi hwho
    obtain ⟨hstatus, halike⟩ := respond_turnedAway s hp he ha hi hwho
    refine ⟨hstatus.trans ?_, halike⟩
    cases identity <;> rfl

/-- A student gets a stream of his own, and is turned away where administrators publish. Bytes that
are no text for an id are a bad request even where there is no endpoint. -/
theorem effects_authorized_student :
    let config : Config :=
      { Config.standard with studentTransport := .sse, trustIdentity := true }
    let ask (method path : String) (id body : List UInt8) : Request :=
      ⟨method, ⟨"", path, none⟩, [("x-student-id", id)], body, false⟩
    let listen := ask "GET" "/student/api/events" [0x37] []
    let intrude := ask "POST" "/admin/notify" [0x37] [0x74, 0x65, 0x78, 0x74, 0x3D, 0x21]
    let garble := ask "PUT" "/nowhere" [0xFF] []
    ∃ start, Session.ofConfig? config = .ok start ∧
      Controlled config listen start (perform config start (.http listen true))
        (respond config listen start).1 ∧
      (perform config start (.http listen true)).hub.intake = [.register ⟨0⟩ (.student 7)] ∧
      (respond config intrude start).1.status = 403 ∧
      respond config { intrude with body := [] } start = respond config intrude start ∧
      (respond config garble start).1.status = 400 ∧
      let after := run config start [.http listen true, .settle]
      after.hub.registry.audiences.get? ⟨0⟩ = some (.student 7) ∧
        ∃ x ∈ [Step.http listen true, .settle], ∃ r, x.request? = some r ∧
          Entitled config r (.register ⟨0⟩ (.student 7)) := by
  intro config ask listen intrude garble
  let start : Session := (Session.start 256 (by decide)).onHub fun hub =>
    { hub with journal := Session.settings config :: hub.journal }
  have hstart : Session.ofConfig? config = .ok start := rfl
  obtain ⟨hcontrolled, htable⟩ := effects_authorized config
  have hlisten := hcontrolled start (.http listen true) listen rfl
  have hintrude := hcontrolled start (.http intrude true) intrude rfl
  have hgarble := hcontrolled start (.http garble true) garble rfl
  obtain ⟨hstatus, halike⟩ := hintrude.roles .notify (some (.student 7)) (by decide) (by decide)
    (by decide) rfl (by rintro who ⟨⟩; rfl)
  have hmalformed : garble.Malformed :=
    Or.inl ⟨studentHeader, List.mem_cons_self, [0xFF], by decide, by decide⟩
  have hregistered : (run config start [.http listen true, .settle]).hub.registry.audiences.get?
      ⟨0⟩ = some (.student 7) := by decide +kernel
  exact ⟨start, hstart, hlisten, by decide +kernel, hstatus, halike _ rfl rfl rfl,
    hgarble.malformed rfl hmalformed, hregistered, htable start _ hstart _ _ hregistered⟩

end LiveUpdate.Web
