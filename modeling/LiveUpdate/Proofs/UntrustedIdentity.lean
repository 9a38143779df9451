import LiveUpdate.Proofs.WebRuns

/-! Where identity headers are not trusted they are inert: no answer depends on them, a request does
nothing to the session, and every endpoint that is for somebody turns the request away. Two requests
are compared without their identity headers, so that these may differ in number, case and bytes. -/
namespace LiveUpdate.Web

/-- Whether a header is one of the two that an authenticating proxy writes. -/
def namesIdentity (header : String × List UInt8) : Bool :=
  Request.sameName header.1 studentHeader || Request.sameName header.1 adminHeader

/-- A request without its identity headers. -/
def Request.anonymous (r : Request) : Request :=
  { r with headers := r.headers.filter fun header => !namesIdentity header }

/-- A step without the identity headers of its request. -/
def Step.anonymous : Step → Step
  | .http r kept => .http r.anonymous kept
  | .connect r failure => .connect r.anonymous failure
  | step => step

/-- The responses that the requests of a run get, in order. -/
def replies (config : Config) : Session → List Step → List Response
  | _, [] => []
  | s, step :: rest =>
    (step.request?.map fun r => (respond config r s).1).toList ++
      replies config (perform config s step) rest

/-! ### A request of a stranger -/

/-- What an endpoint answers to somebody who is not known. -/
def Endpoint.strangerResponse : Endpoint → Response
  | health => .plain 200 "healthy"
  | _ => (Refusal.of .unauthenticated).response

/-- The answer to somebody who is not known, before its body may be stripped. -/
def strangerAnswer (r : Request) : Response :=
  match Endpoint.ofPath? r.target.path with
  | none => .bare 404
  | some e => if e.accepts r.method then e.strangerResponse else .bare 405

/-- What the router answers to somebody who is not known. Only the method and the path are read. -/
def strangerResponse (r : Request) : Response :=
  let response := allow r (strangerAnswer r)
  if r.method = "HEAD" && (Endpoint.ofPath? r.target.path).isSome then
    { response with body := .text "" }
  else response

variable {config : Config} {s : Session} {r r' : Request}

theorem serve_stranger (config : Config) (r : Request) (s : Session) (e : Endpoint) :
    serve config none r s e = (e.strangerResponse, s) := by
  cases e with
  | health => rfl
  | studentEvents | adminEvents | notify | liveStats =>
    -- A refusal for want of an identity is not our doing, so that nothing is reported.
    have hreport : (Refusal.of .unauthenticated).report = [] := rfl
    change refuse (.of .unauthenticated) s = _
    rw [refuse_eq, hreport, Session.logAll_nil]
    rfl

theorem answer_untrusted (h : config.trustIdentity = false) (r : Request) (s : Session) :
    answer config r s = (strangerAnswer r, s) := by
  have hidentity : identify config.trustIdentity r = .ok none := by rw [h]; rfl
  unfold answer dispatch strangerAnswer
  rw [hidentity]
  cases Endpoint.ofPath? r.target.path with
  | none => rfl
  | some e =>
    simp only [serve_stranger]
    split <;> rfl

theorem strangerAnswer_body (r : Request) : ∃ content, (strangerAnswer r).body = .text content := by
  unfold strangerAnswer
  cases Endpoint.ofPath? r.target.path with
  | none => exact ⟨_, rfl⟩
  | some e =>
    simp only []
    split
    · cases e <;> exact ⟨_, rfl⟩
    · exact ⟨_, rfl⟩

theorem strangerResponse_body (r : Request) :
    ∃ content, (strangerResponse r).body = .text content := by
  unfold strangerResponse
  simp only []
  split
  · exact ⟨_, rfl⟩
  · rw [allow_body]
    exact strangerAnswer_body r

/-- Without trust everybody is a stranger, and no request of a stranger touches the session. -/
theorem respond_untrusted (h : config.trustIdentity = false) (r : Request) (s : Session) :
    respond config r s = (strangerResponse r, s) := by
  obtain ⟨content, hbody⟩ := strangerAnswer_body r
  -- No stream was opened that would have to be closed with the body of the answer.
  have hstrip : stripBody (allow r (strangerAnswer r)) s =
      ({ allow r (strangerAnswer r) with body := .text "" }, s) := by
    simp only [stripBody, allow_body, hbody]
  rw [respond_eq, answer_untrusted h, hstrip, strangerResponse]
  simp only []
  split <;> rfl

theorem strangerResponse_congr (hmethod : r.method = r'.method) (htarget : r.target = r'.target) :
    strangerResponse r = strangerResponse r' := by
  simp only [strangerResponse, strangerAnswer, allow, hmethod, htarget]

theorem strangerResponse_anonymous (r : Request) :
    strangerResponse r.anonymous = strangerResponse r :=
  strangerResponse_congr rfl rfl

theorem strangerResponse_status {e : Endpoint} (hp : Endpoint.ofPath? r.target.path = some e)
    (he : e ≠ .health) (ha : e.accepts r.method) : (strangerResponse r).status = 401 := by
  have hresponse : e.strangerResponse.status = 401 := by
    cases e with
    | health => exact absurd rfl he
    | _ => rfl
  simp only [strangerResponse, strangerAnswer, allow, hp, if_pos ha]
  split <;> exact hresponse

/-! ### Steps and runs -/

theorem perform_untrusted (h : config.trustIdentity = false) (s : Session) {step : Step}
    (hr : step.request? = some r) : perform config s step = s := by
  obtain ⟨content, hbody⟩ := strangerResponse_body r
  cases step with
  | http r₀ kept | connect r₀ failure =>
    obtain rfl : r₀ = r := Option.some.inj hr
    simp only [perform, respond_untrusted h, hbody]
  | _ => cases hr

theorem run_untrusted (h : config.trustIdentity = false) (s : Session) (steps : List Step) :
    run config s steps = run config s (steps.filter fun step => step.request?.isNone) := by
  induction steps generalizing s with
  | nil => rfl
  | cons step rest ih =>
    cases hr : step.request? with
    | none =>
      rw [List.filter_cons_of_pos (by rw [hr]; rfl)]
      exact ih (perform config s step)
    | some r =>
      rw [List.filter_cons_of_neg (by rw [hr]; simp)]
      have hstep : run config s (step :: rest) = run config (perform config s step) rest := rfl
      rw [hstep, perform_untrusted h s hr]
      exact ih s

theorem replies_untrusted (h : config.trustIdentity = false) (s : Session) (steps : List Step) :
    replies config s steps = (steps.filterMap Step.request?).map strangerResponse := by
  induction steps generalizing s with
  | nil => rfl
  | cons step rest ih =>
    rw [replies, ih]
    cases hr : step.request? with
    | none => rw [List.filterMap_cons_none hr]; rfl
    | some r =>
      rw [List.filterMap_cons_some hr, List.map_cons, Option.map_some, respond_untrusted h]
      rfl

theorem request?_anonymous (step : Step) :
    step.anonymous.request? = step.request?.map Request.anonymous := by
  cases step <;> rfl

/-- A run and its responses without the identity headers. -/
theorem replies_anonymous (h : config.trustIdentity = false) (s : Session) (steps : List Step) :
    replies config s (steps.map Step.anonymous) = replies config s steps := by
  rw [replies_untrusted h, replies_untrusted h, List.filterMap_map]
  induction steps with
  | nil => rfl
  | cons step rest ih =>
    rw [List.filterMap_cons, List.filterMap_cons, Function.comp_apply, request?_anonymous]
    cases step.request? with
    | none => exact ih
    | some r =>
      simp only [Option.map_some, List.map_cons, ih, strangerResponse_anonymous]

theorem run_anonymous (h : config.trustIdentity = false) (s : Session) (steps : List Step) :
    run config s (steps.map Step.anonymous) = run config s steps := by
  rw [run_untrusted h, run_untrusted h s steps]
  congr 1
  induction steps with
  | nil => rfl
  | cons step rest ih =>
    cases step with
    | http | connect => exact ih
    | _ => exact congrArg (List.cons _) ih

/-- Identity headers that are not trusted are inert. Whatever the session, requests that are alike
apart from them get the same response and leave the same session; so do whole runs with such
requests in them. No request does anything to the session, whatever else goes on in the run; and at
an endpoint that is for a student or an administrator it is not authenticated. -/
theorem untrusted_identity_inert (h : config.trustIdentity = false) :
    (∀ s r r', r.anonymous = r'.anonymous → respond config r s = respond config r' s) ∧
    (∀ s steps steps', steps.map Step.anonymous = steps'.map Step.anonymous →
      run config s steps = run config s steps' ∧
        replies config s steps = replies config s steps') ∧
    (∀ s steps, run config s steps =
      run config s (steps.filter fun step => step.request?.isNone)) ∧
    (∀ s requests, (∀ step ∈ requests, ∃ r, Step.request? step = some r) →
      run config s requests = s) ∧
    ∀ s r e, Endpoint.ofPath? r.target.path = some e → e ≠ .health → e.accepts r.method →
      (respond config r s).1.status = 401 := by
  refine ⟨?_, ?_, run_untrusted h, ?_, ?_⟩
  · intro s r r' halike
    rw [respond_untrusted h, respond_untrusted h, ← strangerResponse_anonymous r, halike,
      strangerResponse_anonymous]
  · intro s steps steps' halike
    constructor
    · rw [← run_anonymous h, halike, run_anonymous h]
    · rw [← replies_anonymous h, halike, replies_anonymous h]
  · intro s requests hall
    have hnone : (requests.filter fun step => step.request?.isNone) = [] := by
      rw [List.filter_eq_nil_iff]
      intro step hstep
      obtain ⟨r, hr⟩ := hall step hstep
      simp [hr]
    rw [run_untrusted h, hnone]
    rfl
  · intro s r e hp he ha
    rw [respond_untrusted h]
    exact strangerResponse_status hp he ha

/-- Two student headers, one of them no text, are as good as none: nobody is registered. -/
theorem untrusted_identity_inert_bytes :
    let config : Config := { Config.standard with studentTransport := .sse }
    let ask (headers : List (String × List UInt8)) : Request :=
      ⟨"GET", ⟨"", "/student/api/events", none⟩, headers, [], false⟩
    let forged := ask [("X-Student-Id", [0x37]), ("accept", [0x2A]), ("x-student-id", [0xFF])]
    let s := Session.start 8 (by decide)
    config.trustIdentity = false ∧
      respond config forged s = respond config (ask [("accept", [0x2A])]) s ∧
      (respond config forged s).1.status = 401 ∧
      run config s [.http forged true, .settle] = run config s [.settle] := by
  intro config ask forged s
  have huntrusted : config.trustIdentity = false := rfl
  obtain ⟨hrespond, -, hrun, -, hstatus⟩ := untrusted_identity_inert huntrusted
  exact ⟨huntrusted, hrespond s _ _ (by decide),
    hstatus s forged .studentEvents (by decide) (by decide) (by decide), hrun s _⟩

end LiveUpdate.Web
