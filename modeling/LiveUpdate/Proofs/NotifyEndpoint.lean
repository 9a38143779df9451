import LiveUpdate.Proofs.AccessControl
import LiveUpdate.Proofs.Conservation
import LiveUpdate.Proofs.Notices
import LiveUpdate.Proofs.TextGrammar

/-! Where administrators publish notifications. A form whose text says something on one line is
answered with a redirection and becomes one broadcast; every other form is refused and does nothing.
What the endpoint lets through can be made into an event, so that no form brings it down. -/
namespace LiveUpdate

/-- A text without the blanks around it. -/
def Trims (text message : String) : Prop :=
  ∃ left right, text.toList = left ++ message.toList ++ right ∧
    (∀ c ∈ left ++ right, Text.isBlank c = true) ∧ Text.Snug message.toList

theorem trims_iff {text message : String} :
    Trims text message ↔ String.ofList (Text.trimBlanks text.toList) = message := by
  rw [Trims, ← Text.trimBlanks_eq_iff]
  constructor
  · intro h
    rw [h, String.ofList_toList]
  · rintro rfl
    rw [String.toList_ofList]

/-! ### A broadcast in the queue -/

namespace Hub

variable {hub : Hub} {c : ConnectionId} {e : Event} {earlier rest : List Command}

/-- A command has its turn when as many have been applied as stood before it. -/
theorem turn_of_last {command : Command} (hp : hub.pending = earlier ++ [command])
    {later : List Happening} (hlater : hub.Proper later)
    (hn : (hub.appliedIn later).length = earlier.length) :
    hub.appliedIn later = earlier ∧
      (hub.undergo later).pending = command :: hub.submittedIn later := by
  have hall := undergo_pending hlater
  rw [hp, List.append_assoc, List.singleton_append] at hall
  obtain ⟨happlied, hpending⟩ := List.append_inj hall hn.symm
  exact ⟨happlied.symm, hpending.symm⟩

/-- What a broadcast does when it has its turn: whoever is registered and takes events gets it
once, or is counted as missing it if there is no room. -/
structure Airs (hub : Hub) (e : Event) : Prop where
  mailbox : ∀ c, hub.step.waitingFor c = hub.waitingFor c ++
    if (hub.registry.audiences.get? c).isSome && hub.isOpen c && !hub.isFull c then [e] else []
  delivered : hub.step.delivered = hub.delivered +
    {c | (hub.registry.audiences.get? c).isSome ∧ hub.isOpen c ∧ ¬ hub.isFull c}.ncard
  dropped : hub.step.dropped = hub.dropped +
    {c | (hub.registry.audiences.get? c).isSome ∧ hub.isOpen c ∧ hub.isFull c}.ncard

theorem Orderly.airs (h : hub.Orderly) (hp : hub.pending = .send ⟨.broadcast, e⟩ :: rest) :
    hub.Airs e := by
  have hmeant (c : ConnectionId) : hub.isMeant ⟨.broadcast, e⟩ c =
      (hub.registry.audiences.get? c).isSome := by
    rw [isMeant]
    cases hub.registry.audiences.get? c <;> rfl
  have hcounts := h.step_send_ncard hp
  have hboxes := h.waitingFor_send hp
  simp only [hmeant] at hcounts hboxes
  exact ⟨hboxes, hcounts.1, hcounts.2.1⟩

end Hub

/-! ### The form -/

namespace Web

/-- A form announces a message: its text, without the blanks around it, says something on one
line. -/
structure Request.Announces (r : Request) (message : String) : Prop where
  decodes : ∃ text, notificationText r = .ok text ∧ Trims text message
  speaks : message ≠ ""
  oneLine : OneLine message

variable {config : Config} {r : Request} {name message : String} {e : Event}

theorem endpoint_notify (hpath : r.target.path = "/admin/notify") :
    Endpoint.ofPath? r.target.path = some .notify := by
  rw [hpath]
  rfl

theorem notify_accepts (hmethod : r.method = "POST") :
    Endpoint.notify.accepts r.method = true := by
  rw [hmethod]
  rfl

/-- A request of an administrator to publish something comes to the endpoint for that. -/
theorem respond_notify (hmethod : r.method = "POST") (hpath : r.target.path = "/admin/notify")
    (hadmin : identify config.trustIdentity r = .ok (some (.admin name))) (s : Session) :
    respond config r s = serveNotify (some (.admin name)) r (s.log (.resolved (.admin name))) := by
  have hhead : ¬ r.method = "HEAD" := by
    rw [hmethod]
    decide
  simp only [respond, hadmin, dispatch, endpoint_notify hpath, notify_accepts hmethod, if_true,
    serve, allow, hhead, decide_false, Bool.false_and, Bool.false_eq_true, if_false]

theorem errand_notify (hmethod : r.method = "POST") (hpath : r.target.path = "/admin/notify")
    (hadmin : identify config.trustIdentity r = .ok (some (.admin name))) :
    (errand config r).2 = (noticeErrand name r).2 := by
  simp only [errand, hadmin, endpoint_notify hpath, notify_accepts hmethod, if_true,
    Endpoint.errand]

theorem plan_of_notify (he : Event.notify message = .ok e) :
    (DomainEvent.adminNotification message).plan = ⟨[⟨.broadcast, e⟩], none⟩ := by
  simp [DomainEvent.plan, he, Plan.single]

/-- The handler can build what the endpoint has checked, and nothing else. -/
theorem publish_notification_iff (s : Session) :
    (s.publish (.adminNotification message)).1 = none ↔ OneLine message := by
  rw [← Event.notify_iff, Session.publish, Session.handle_eq, DomainEvent.plan]
  cases Event.notify message <;> simp [Plan.single]

/-- A notification becomes one broadcast; without a loop the hub discards it, which is reported. -/
theorem publish_notification (he : Event.notify message = .ok e) (s : Session) :
    let d : DomainEvent := .adminNotification message
    s.publish d = (none, { s with
      hub := { s.hub with
        pending := s.hub.pending ++ if s.hub.running then [.send ⟨.broadcast, e⟩] else []
        journal := s.hub.journal ++ ([.publishing d.name 1, .handling d.name] ++
          if s.hub.running then [] else [.discarded]) } }) := by
  intro d
  have hplan : d.plan = ⟨[⟨.broadcast, e⟩], none⟩ := plan_of_notify he
  have hlast : Session.lastLines d = [] := by simp [Session.lastLines, hplan, d]
  simp [Session.publish, Session.handle_eq, Session.handlingLines, hplan, hlast, Session.log,
    Session.onHub, Hub.log]

/-- What a notification leaves in the journal; without a loop the hub discards it, which is
reported. -/
def noticeLines (name message : String) (running : Bool) : List Entry :=
  let d : DomainEvent := .adminNotification message
  [.resolved (.admin name), .broadcasting name, .publishing d.name 1, .handling d.name] ++
    if running then [] else [.discarded]

/-- The session after a notification: one broadcast has joined what is pending. -/
def notified (s : Session) (name : String) (e : Event) : Session :=
  { s with
    hub := { s.hub with
      pending := s.hub.pending ++ if s.hub.running then [.send ⟨.broadcast, e⟩] else []
      journal := s.hub.journal ++ noticeLines name e.payload s.hub.running } }

theorem serveNotify_of_announces (name : String) (h : r.Announces message) (s : Session) :
    ∃ e : Event, e.kind = "notify" ∧ e.payload = message ∧
      serveNotify (some (.admin name)) r (s.log (.resolved (.admin name))) =
        (⟨303, [("location", "/admin/notify")], .text ""⟩, notified s name e) := by
  obtain ⟨⟨text, htext, htrims⟩, hspeaks, hline⟩ := h
  obtain ⟨e, he⟩ := Event.notify_iff.mpr hline
  obtain ⟨hkind, hpayload⟩ := Event.build_eq_ok_iff.mp he
  refine ⟨e, hkind, hpayload, ?_⟩
  rw [trims_iff] at htrims
  simp only [serveNotify, requireAdmin, htext, htrims, hspeaks, if_false, he]
  rw [publish_notification he, notified, noticeLines, hpayload]
  simp [Session.log, Session.onHub, Hub.log]

/-- A form that cannot be decoded is the doing of who sent it. -/
theorem notificationText_status {response : Response} (h : notificationText r = .error response) :
    400 ≤ response.status ∧ response.status < 500 := by
  unfold notificationText at h
  grind [Response.plain]

/-- A form that announces nothing is refused, and that is all. -/
theorem serveNotify_of_not (name : String) (h : ¬∃ message, r.Announces message)
    (s : Session) :
    (serveNotify (some (.admin name)) r s).2 = s ∧
      400 ≤ (serveNotify (some (.admin name)) r s).1.status ∧
      (serveNotify (some (.admin name)) r s).1.status < 500 ∧
      ∀ text, notificationText r = .ok text →
        (serveNotify (some (.admin name)) r s).1.status = 422 := by
  simp only [serveNotify, requireAdmin]
  cases ht : notificationText r with
  | error response =>
    obtain ⟨hlow, hhigh⟩ := notificationText_status ht
    refine ⟨rfl, hlow, hhigh, fun text htext => ?_⟩
    cases htext
  | ok text =>
    -- Both refusals are for what the text is, and none of our doing is reported.
    have hrefused (refusal : Refusal) (hstatus : refusal.response.status = 422)
        (hreport : refusal.report = []) :
        (refuse refusal s).2 = s ∧ 400 ≤ (refuse refusal s).1.status ∧
          (refuse refusal s).1.status < 500 ∧
          ∀ t, (.ok text : Except Response String) = .ok t → (refuse refusal s).1.status = 422 := by
      rw [refuse_eq, hreport, s.logAll_nil, hstatus]
      exact ⟨rfl, by decide, by decide, fun _ _ => rfl⟩
    by_cases hm : String.ofList (Text.trimBlanks text.toList) = ""
    · simp only [hm, if_true]
      exact hrefused _ rfl rfl
    · cases hn : Event.notify (String.ofList (Text.trimBlanks text.toList)) with
      | error why =>
        simp only [hm, if_false, hn]
        exact hrefused _ rfl rfl
      | ok e =>
        exact absurd ⟨_, ⟨text, ht, trims_iff.mpr rfl⟩, hm, Event.notify_iff.mp ⟨e, hn⟩⟩ h

/-- Only what is announced is published, and it is published without fail. -/
theorem publish_of_noticeErrand {d : DomainEvent} (h : (noticeErrand name r).2 = .publish d) :
    (∃ message, r.Announces message ∧ d = .adminNotification message) ∧
      ∀ s : Session, (s.publish d).1 = none := by
  unfold noticeErrand at h
  cases ht : notificationText r with
  | error response => simp [ht] at h
  | ok text =>
    by_cases hm : String.ofList (Text.trimBlanks text.toList) = ""
    · simp [ht, hm] at h
    · cases hn : Event.notify (String.ofList (Text.trimBlanks text.toList)) with
      | error why => simp [ht, hm, hn] at h
      | ok e =>
        have hline := Event.notify_iff.mp ⟨e, hn⟩
        simp only [ht, if_neg hm, hn, Errand.publish.injEq] at h
        subst h
        exact ⟨⟨_, ⟨⟨text, ht, trims_iff.mpr rfl⟩, hm, hline⟩, rfl⟩,
          fun s => (publish_notification_iff s).mpr hline⟩

end Web

namespace Session

open Web

/-- Publishing is all or nothing. Whatever has happened to the session, an administrator who
publishes a form that announces a message is redirected, and the message becomes one broadcast, the
last of what is pending: when it has its turn, whatever has happened until then, whoever is
registered and takes events gets it once or is counted as missing it. A form that announces nothing
is refused as its sender's doing, as unprocessable if it has a text at all, and leaves nothing but
the line that says who came. What reaches the handler is announced, and the handler can always build
it. -/
theorem notify_all_or_nothing {config : Config} {start : Session}
    (hstart : ofConfig? config = .ok start) (incidents : List Incident) {r : Request}
    {name : String} (hmethod : r.method = "POST") (hpath : r.target.path = "/admin/notify")
    (hadmin : identify config.trustIdentity r = .ok (some (.admin name))) :
    let s := start.meetAll config incidents
    let response := (respond config r s).1
    let after := (respond config r s).2
    (∀ message, r.Announces message →
      response = ⟨303, [("location", "/admin/notify")], .text ""⟩ ∧
      ∃ e : Event, e.kind = "notify" ∧ e.payload = message ∧ after = notified s name e ∧
        (s.hub.running = true → ∀ later, after.hub.Proper later →
          (after.hub.appliedIn later).length = s.hub.pending.length →
          (after.hub.undergo later).pending =
              .send ⟨.broadcast, e⟩ :: after.hub.submittedIn later ∧
            (after.hub.undergo later).Airs e)) ∧
    ((¬∃ message, r.Announces message) →
      400 ≤ response.status ∧ response.status < 500 ∧
      (∀ text, notificationText r = .ok text → response.status = 422) ∧
      after = s.logAll [.resolved (.admin name)]) ∧
    (∀ d, (errand config r).2 = .publish d →
      (∃ message, r.Announces message ∧ d = .adminNotification message) ∧
      ∀ t : Session, (t.publish d).1 = none) := by
  intro s response after
  have horderly : s.hub.Orderly := orderly_meetAll (lasting_ofConfig hstart).orderly incidents
  have hrespond := respond_notify hmethod hpath hadmin s
  refine ⟨fun message h => ?_, fun h => ?_, fun d hd => ?_⟩
  · obtain ⟨e, hkind, hpayload, hserve⟩ := serveNotify_of_announces name h s
    have hafter : after = notified s name e := congrArg Prod.snd (hrespond.trans hserve)
    refine ⟨congrArg Prod.fst (hrespond.trans hserve), e, hkind, hpayload, hafter,
      fun hrunning later hlater hn => ?_⟩
    have hnotified : after.hub.Orderly := by
      rw [hafter]
      refine horderly.of_eq rfl ?_ (fun _ => rfl) (Nat.le_refl _)
      simp [Hub.awaited, notified, hrunning, Command.entrant?]
    have hpending : after.hub.pending = s.hub.pending ++ [.send ⟨.broadcast, e⟩] := by
      simp [hafter, notified, hrunning]
    have hturn := (Hub.turn_of_last hpending hlater hn).2
    exact ⟨hturn, (hnotified.undergo later).airs hturn⟩
  · obtain ⟨hsame, hlow, hhigh, htext⟩ :=
      serveNotify_of_not name h (s.log (.resolved (.admin name)))
    rw [← hrespond] at hsame hlow hhigh htext
    exact ⟨hlow, hhigh, htext, hsame⟩
  · rw [errand_notify hmethod hpath hadmin] at hd
    exact publish_of_noticeErrand hd

/-- A line feed at the end of a text is a blank, and is left out; one inside it is not. -/
theorem notify_all_or_nothing_lines :
    let config : Config := { Config.standard with trustIdentity := true }
    let ask (body : String) : Request := ⟨"POST", ⟨"", "/admin/notify", none⟩,
      [("content-type", Text.Utf8.encode formType.toList), ("x-admin-user", [0x72])],
      Text.Utf8.encode body.toList, false⟩
    let incidents : List Incident := [.action (.register (.student 5)), .action (.web .settle)]
    ∃ start, ofConfig? config = .ok start ∧
      let s := start.meetAll config incidents
      (∃ e : Event, e.payload = "Hi" ∧ (respond config (ask "text=+Hi%0A") s).1.status = 303 ∧
        (respond config (ask "text=+Hi%0A") s).2.hub.pending = [.send ⟨.broadcast, e⟩] ∧
        (respond config (ask "text=+Hi%0A") s).2.hub.Airs e) ∧
      (respond config (ask "text=Hi%0Aho") s).1.status = 422 ∧
      (respond config (ask "text=Hi%0Aho") s).2 = s.logAll [.resolved (.admin "r")] := by
  intro config ask incidents
  let start : Session := (Session.start 256 (by decide)).onHub fun hub =>
    { hub with journal := settings config :: hub.journal }
  have hstart : ofConfig? config = .ok start := rfl
  have hadmin (body : String) :
      identify config.trustIdentity (ask body) = .ok (some (.admin "r")) := by
    have hidentity : identityOfHeaders (ask "") = .ok (some (.admin "r")) := by decide +kernel
    exact hidentity
  have hannounces : (ask "text=+Hi%0A").Announces "Hi" :=
    ⟨⟨" Hi\n", by decide +kernel, trims_iff.mpr (by decide +kernel)⟩, by decide, by decide⟩
  have hsilent : ¬∃ message, (ask "text=Hi%0Aho").Announces message := by
    rintro ⟨message, ⟨text, htext, htrims⟩, -, hline⟩
    have hdecoded : notificationText (ask "text=Hi%0Aho") = .ok "Hi\nho" := by decide +kernel
    obtain rfl : "Hi\nho" = text := Except.ok.inj (hdecoded.symm.trans htext)
    obtain rfl : "Hi\nho" = message := (by decide +kernel : _ = _).trans (trims_iff.mp htrims)
    exact absurd hline (by decide)
  obtain ⟨hall, -, -⟩ :=
    notify_all_or_nothing hstart incidents (r := ask "text=+Hi%0A") rfl rfl (hadmin _)
  obtain ⟨-, hnothing, -⟩ :=
    notify_all_or_nothing hstart incidents (r := ask "text=Hi%0Aho") rfl rfl (hadmin _)
  obtain ⟨hresponse, e, -, hpayload, -, hturn⟩ := hall "Hi" hannounces
  obtain ⟨-, -, hstatus, hafter⟩ := hnothing hsilent
  have hidle : (start.meetAll config incidents).hub.pending = [] ∧
      (start.meetAll config incidents).hub.running = true := by decide +kernel
  obtain ⟨hpending, hairs⟩ := hturn hidle.2 [] trivial (by rw [hidle.1]; rfl)
  rw [Hub.undergo_nil, Hub.submittedIn, Hub.glean_nil] at hpending
  rw [Hub.undergo_nil] at hairs
  have hstatus₁ : (respond config (ask "text=+Hi%0A") (start.meetAll config incidents)).1.status =
      303 := by rw [hresponse]
  have hstatus₂ := hstatus "Hi\nho" (by decide +kernel)
  exact ⟨start, hstart, ⟨e, hpayload, hstatus₁, hpending, hairs⟩, hstatus₂, hafter⟩

end Session
end LiveUpdate
