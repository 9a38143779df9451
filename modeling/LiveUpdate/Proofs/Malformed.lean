import LiveUpdate.Proofs.Bodies
import LiveUpdate.Proofs.Regimes
import LiveUpdate.Proofs.Shutdown

/-! Malformed events stay outside. Whatever strings a session is given, and whatever befalls it, each
event that it holds or gives out was made of a kind and a payload that it was given, as they were, and
these can be sent; and who insists on any other event is refused before anything happens. -/
namespace LiveUpdate

/-! ### Insisting on an event -/

/-- Insisting on this event fails exactly if it cannot be made of these strings, and for that
reason. -/
def Event.Insists (made : Except Rejection Event) (kind payload : String) : Prop :=
  ∀ words, insist made = .error words ↔ ∃ why, build kind payload = .error why ∧
    words = "refusing to build live-update event: " ++ why.toFault.message

namespace Event

theorem insists_build (kind payload : String) : Insists (build kind payload) kind payload := by
  intro words
  unfold insist
  cases build kind payload with
  | ok e => simp [Except.mapError]
  | error why =>
    simp only [Except.mapError, Except.error.injEq, exists_eq_left']
    exact eq_comm

theorem insist_ok_iff {made : Except Rejection Event} {e : Event} :
    insist made = .ok e ↔ made = .ok e := by
  cases made <;> simp [insist, Except.mapError]

end Event

/-! ### Incidents -/

namespace Session

/-- What can befall a session: something is done to it, or the hub is lost. -/
inductive Incident
  | action (action : Action)
  | crash

namespace Incident

/-- The kinds and payloads of which an event is tried to be made. -/
def drafts (config : Config) : Incident → List Draft
  | action a => a.drafts config
  | crash => []

/-- The texts that a transport has taken, or has ready, when it is handed over. -/
def brought : Incident → List String
  | action (.runPair _ _ sink) | action (.runWriter _ _ sink) => sink.texts
  | _ => []

end Incident

def meet (config : Config) (s : Session) : Incident → Session
  | .action a => s.enact config a
  | .crash => s.crash

def meetAll (config : Config) (s : Session) (incidents : List Incident) : Session :=
  incidents.foldl (meet config) s

end Session

/-! ### What is held and what is written -/

/-- A writer that has only such events in hand, and has written only such events, beside the greeting
and what its transport brought with it. -/
structure Writer.Bears (w : Writer) (event : Event → Prop) (brought : List String) : Prop where
  inHand : ∀ e text, w.inHand = some (e, text) → event e ∧ w.encode e = .frame text
  written : ∀ text ∈ w.sink.texts,
    text ∈ brought ∨ ∃ e, (e = .hello ∨ event e) ∧ w.encode e = .frame text

theorem Writer.Bears.succeed {w w' : Writer} {event : Event → Prop} {brought : List String}
    {events : List Event} (h : w.Bears event brought) (hevents : ∀ e ∈ events, event e)
    (hsucceeds : w.Succeeds w' events) : w'.Bears event brought where
  inHand e text hhand := by
    rw [hsucceeds.encode]
    rcases hsucceeds.inHand e text hhand with hold | ⟨he, hframe⟩
    · exact h.inHand e text hold
    · exact ⟨hevents e he, hframe⟩
  written text htext := by
    rw [hsucceeds.encode]
    rcases hsucceeds.texts text htext with hold | ⟨e, hhand⟩
    · exact h.written text hold
    · obtain ⟨he, hframe⟩ := h.inHand e text hhand
      exact Or.inr ⟨e, Or.inr he, hframe⟩

/-- Only such events are about, whoever works for whom. -/
def Regime.bearing (event : Event → Prop) (brought : List String) : Regime where
  event
  writer _ w := w.Bears event brought
  stream _ _ _ := True
  greeting _ _ _ := True
  minted := 0
  known := 0
  succeeds _ hw hevents hsucceeds := hw.succeed hevents hsucceeds
  lasts _ _ := trivial
  waits _ _ := trivial
  opened _ _ := trivial
  begun _ _ := trivial
  obstructed _ := trivial
  greeted _ := by
    refine ⟨fun e text hhand => (by cases hhand), fun text htext => Or.inr ⟨.hello, Or.inl rfl, ?_⟩⟩
    simp only [Writer.new, Sink.mem_texts, Session.greetedSink, Sink.polite, List.mem_singleton,
      Outgoing.text.injEq, Option.some.injEq, reduceCtorEq, or_false] at htext
    rw [htext]
    rfl

namespace Session

variable {config : Config} {s : Session} {event : Event → Prop} {brought : List String}

theorem governs_meet (h : (Regime.bearing event brought).Governs s) {incident : Incident}
    (hevent : ∀ e, e.MadeOf (incident.drafts config) → event e)
    (hbrought : ∀ text ∈ incident.brought, text ∈ brought) :
    (Regime.bearing event brought).Governs (s.meet config incident) := by
  cases incident with
  | action a =>
    have hnew {c : ConnectionId} {encode : Encoder} {sink : Sink} (outcome : Outcome)
        (hsink : ∀ text ∈ sink.texts, text ∈ brought) :
        (Writer.new c encode sink outcome).Bears event brought :=
      ⟨fun e text hhand => (by cases hhand), fun text htext => Or.inl (hsink text htext)⟩
    refine h.enact ⟨hevent, fun c encode sink ha n => ?_, fun c encode sink ha n => ?_,
      fun _ _ _ _ _ _ => trivial⟩
    · subst ha
      exact hnew .idle hbrought
    · subst ha
      exact hnew .running hbrought
  | crash => exact h.crash

theorem governs_meetAll (h : (Regime.bearing event brought).Governs s) {incidents : List Incident}
    (hevent : ∀ e, e.MadeOf (incidents.flatMap (Incident.drafts config)) → event e)
    (hbrought : ∀ text ∈ incidents.flatMap Incident.brought, text ∈ brought) :
    (Regime.bearing event brought).Governs (s.meetAll config incidents) := by
  induction incidents generalizing s with
  | nil => exact h
  | cons incident rest ih =>
    have hfirst : (Regime.bearing event brought).Governs (s.meet config incident) :=
      governs_meet h (fun e he => hevent e (List.mem_append_left _ he))
        fun text htext => hbrought text (List.mem_append_left _ htext)
    exact ih hfirst (fun e he => hevent e (List.mem_append_right _ he))
      fun text htext => hbrought text (List.mem_append_right _ htext)

end Session

/-- An event that can be sent, made of one of these drafts. -/
structure Event.Admitted (drafts : List Draft) (e : Event) : Prop where
  wellFormed : WellFormed e.kind e.payload
  made : e.MadeOf drafts

namespace Session

/-- All events of a session are made of these drafts: those that are pending, wait in a mailbox or are
in the hand of a writer, those that were written to a transport, and those that are read of a body or
received. -/
structure Unspoilt (s : Session) (drafts : List Draft) (brought : List String) : Prop where
  pending : ∀ m, .send m ∈ s.hub.pending → m.event.Admitted drafts
  waiting : ∀ c box, s.hub.mailbox? c = some box → ∀ e ∈ box.waiting, e.Admitted drafts
  inHand : ∀ i t w e text, s.tasks.get? i = some t → t.writer? = some w →
    w.inHand = some (e, text) → e.Admitted drafts ∧ w.encode e = .frame text
  written : ∀ i t w, s.tasks.get? i = some t → t.writer? = some w → ∀ text ∈ w.sink.texts,
    text ∈ brought ∨ ∃ e, WellFormed e.kind e.payload ∧ (e = .hello ∨ e.MadeOf drafts) ∧
      w.encode e = .frame text
  read : ∀ i limit texts ended, (s.readStream i limit).1 = some (texts, ended) →
    ∀ text ∈ texts, text = Frame.keepAlive ∨ ∃ e, e.Admitted drafts ∧ text = Frame.sse e
  received : ∀ c limit events state, (s.receive c limit).1 = some (events, state) →
    ∀ e ∈ events, e.Admitted drafts

/-- What the rules say of a session comes to this. -/
theorem unspoilt_of_governs {s : Session} {drafts : List Draft} {brought : List String}
    (h : (Regime.bearing (Event.MadeOf drafts) brought).Governs s) : s.Unspoilt drafts brought where
  pending m hm := ⟨m.event.wellFormed, h.hub.pending m hm⟩
  waiting c box hbox e he := ⟨e.wellFormed, h.hub.waiting c box hbox e he⟩
  inHand i t w e text hi hw hhand := by
    obtain ⟨hmade, hframe⟩ := (h.writer i t w hi hw).inHand e text hhand
    exact ⟨⟨e.wellFormed, hmade⟩, hframe⟩
  written i t w hi hw text htext := by
    rcases (h.writer i t w hi hw).written text htext with hbrought | ⟨e, he, hframe⟩
    · exact Or.inl hbrought
    · exact Or.inr ⟨e, e.wellFormed, he, hframe⟩
  read i limit texts ended hread text htext := by
    cases hi : s.streams.get? i with
    | none =>
      rw [readStream_of_absent limit (Or.inl hi)] at hread
      cases hread
    | some x =>
      cases hbox : s.hub.mailbox? x.connection with
      | none =>
        rw [readStream_of_absent limit (Or.inr ⟨x, hi, hbox⟩)] at hread
        cases hread
      | some box =>
        rw [readStream_eq hi hbox] at hread
        simp only [Option.some.injEq, Prod.mk.injEq] at hread
        obtain ⟨comments, htexts, -⟩ :=
          x.read_texts box s.clock (limit.getD (box.waiting.length + 2))
        rw [← hread.1, htexts, List.mem_append] at htext
        rcases htext with hblock | hcomment
        · obtain ⟨e, he, rfl⟩ := List.mem_map.mp hblock
          have hmade := h.hub.waiting _ _ hbox e (List.mem_of_mem_take he)
          exact Or.inr ⟨e, ⟨e.wellFormed, hmade⟩, rfl⟩
        · exact Or.inl (List.mem_replicate.mp hcomment).2
  received c limit events state hreceive e he := by
    cases hbox : s.hub.mailbox? c with
    | none =>
      simp only [receive, hbox] at hreceive
      cases hreceive
    | some box =>
      rw [receive_eq hbox, drain_events] at hreceive
      simp only [Option.some.injEq, Prod.mk.injEq] at hreceive
      rw [← hreceive.1] at he
      exact ⟨e.wellFormed, h.hub.waiting c box hbox e (List.mem_of_mem_take he)⟩

/-- Whatever befalls a session, its events are made of the drafts that it was given. -/
theorem unspoilt_meetAll {config : Config} {start : Session}
    (hstart : ofConfig? config = .ok start) (incidents : List Incident) :
    (start.meetAll config incidents).Unspoilt
      (incidents.flatMap (Incident.drafts config)) (incidents.flatMap Incident.brought) :=
  unspoilt_of_governs <| governs_meetAll (Regime.governs_ofConfig hstart rfl rfl)
    (fun _ he => he) fun _ htext => htext

/-- A hub operation with a draft that cannot be sent is refused, and does nothing. -/
structure Refuses (s : Session) (kind payload : String) (why : Rejection) : Prop where
  send : ∀ scope, s.send scope kind payload = (some why, s)
  broadcast : s.broadcast kind payload = (some why, s)
  sendTo : ∀ audiences, s.sendTo audiences kind payload = (some why, s)
  sendToStudents : ∀ students, s.sendToStudents students kind payload = (some why, s)

theorem refuses_of_build {kind payload : String} {why : Rejection}
    (h : Event.build kind payload = .error why) (s : Session) : s.Refuses kind payload why := by
  have hsubmit (act : Event → Hub → Hub) : s.submitEvent kind payload act = (some why, s) := by
    simp only [submitEvent, h]
  exact ⟨fun _ => hsubmit _, hsubmit _, fun _ => hsubmit _, fun _ => hsubmit _⟩

/-- Whatever befalls a session, each event that is pending, waits, is on its way or was given out can
be sent and was made of a draft as it was given. A hub operation with a draft that cannot be sent is
refused and leaves everything as it is; and insisting on an event fails exactly if it cannot be made,
in the words of that failure. -/
theorem malformed_stays_out {config : Config} {start : Session}
    (hstart : ofConfig? config = .ok start) (incidents : List Incident) :
    let s := start.meetAll config incidents
    s.Unspoilt (incidents.flatMap (Incident.drafts config)) (incidents.flatMap Incident.brought) ∧
      (∀ kind payload, ¬WellFormed kind payload →
        ∃ why, Event.Fails kind payload why ∧ s.Refuses kind payload why) ∧
      (∀ kind payload, Event.Insists (Event.build kind payload) kind payload ∧
        ((∃ e, Event.insist (Event.build kind payload) = .ok e) ↔ WellFormed kind payload)) ∧
      (∀ kind, Event.Insists (Event.signal kind) kind "" ∧
        ((∃ e, Event.insist (Event.signal kind) = .ok e) ↔ OneLine kind ∧ kind ≠ "")) ∧
      (∀ message, Event.Insists (Event.notify message) "notify" message ∧
        ((∃ e, Event.insist (Event.notify message) = .ok e) ↔ OneLine message)) ∧
      ∀ course count,
        Event.Insists (Event.courseCount course count) "course_count_update"
          (course ++ "," ++ Text.integerText count) ∧
        ((∃ e, Event.insist (Event.courseCount course count) = .ok e) ↔ OneLine course) := by
  simp only [Event.insist_ok_iff, Event.exists_build_iff, Event.signal_iff, Event.notify_iff,
    Event.courseCount_iff, iff_self, and_true]
  refine ⟨unspoilt_meetAll hstart incidents, fun kind payload hmalformed => ?_,
    Event.insists_build, fun kind => Event.insists_build kind "", Event.insists_build "notify",
    fun course count => Event.insists_build _ _⟩
  obtain ⟨why, hwhy⟩ := Event.exists_rejection_iff.mpr hmalformed
  exact ⟨why, Event.build_eq_error_iff.mp hwhy, refuses_of_build hwhy _⟩

/-- A notification of two lines is refused, and one of a single line is sent. -/
theorem malformed_stays_out_notify :
    let incidents : List Incident := [.action (.register (.student 5)),
      .action (.send .broadcast "notify" "one\ntwo"), .action (.send .broadcast "notify" "three"),
      .action (.web .settle)]
    ∃ start, ofConfig? Config.standard = .ok start ∧
      let s := start.meetAll Config.standard incidents
      s.hub.waitingFor ⟨0⟩ = [⟨"notify", "three", by decide, by decide, by decide⟩] ∧
        (∀ box, s.hub.mailbox? ⟨0⟩ = some box → ∀ e ∈ box.waiting,
          e.Admitted [("notify", "one\ntwo"), ("notify", "three")]) ∧
        s.Refuses "notify" "one\ntwo" (.brokenPayload "notify") ∧
        Event.insist (Event.notify "one\ntwo") = .error ("refusing to build live-update event: " ++
          "invalid event: payload for kind \"notify\" contains a line break") := by
  intro incidents
  let start : Session := (Session.start 256 (by decide)).onHub fun hub =>
    { hub with journal := settings Config.standard :: hub.journal }
  have hstart : ofConfig? Config.standard = .ok start := rfl
  obtain ⟨hunspoilt, hrefuses, -, -, hnotify, -⟩ := malformed_stays_out hstart incidents
  have hbuild : Event.build "notify" "one\ntwo" = .error (.brokenPayload "notify") := by
    decide +kernel
  obtain ⟨why, hfails, hrefused⟩ := hrefuses "notify" "one\ntwo" fun h => by
    have hpayload := h.payload_oneLine
    revert hpayload
    decide
  have hwhy := Event.build_eq_error_iff.mpr hfails
  rw [hbuild] at hwhy
  cases hwhy
  exact ⟨start, hstart, by decide +kernel, fun box hbox => hunspoilt.waiting ⟨0⟩ box hbox, hrefused,
    ((hnotify "one\ntwo").1 _).mpr ⟨_, hbuild, by decide +kernel⟩⟩

end Session
end LiveUpdate
