import LiveUpdate.Proofs.PlanAudiences
import LiveUpdate.Proofs.Pulse
import LiveUpdate.Proofs.Visits

/-! What students get to know of each other. Two sessions that differ only in which other students
are named by changes of selections are the same to a student who reads at the same points. -/
namespace LiveUpdate

namespace Session

variable {s : Session} {c : ConnectionId} {k : Audience} {start : Desk} {seen : List Glimpse}
  {addressed : List Event}

/-- The task that writes to a connection. -/
def writerOf? (s : Session) (c : ConnectionId) : Option Nat :=
  s.tasks.keys.find? fun i => (s.tasks.get? i).any (·.connection = c)

/-- The frames that went out to the client of a connection. -/
def framesTo (s : Session) (c : ConnectionId) : List Outgoing :=
  match ((s.writerOf? c).bind s.tasks.get?).bind Task.writer? with
  | some w => w.sink.sent
  | none => []

/-- Every frame that went out has been seen. -/
theorem Recorded.framesTo_eq (h : s.Recorded c k start seen addressed) (hs : s.Sound) :
    s.framesTo c = seen.flatMap Glimpse.frames := by
  obtain ⟨d, -, hlaid⟩ := h.laid
  unfold framesTo writerOf?
  cases hfind : s.tasks.keys.find? fun i => (s.tasks.get? i).any (·.connection = c) with
  | none =>
    refine (hlaid.untold fun i p hp hc => ?_).symm
    have hkey : i ∈ s.tasks.keys := (Table.mem_keys_iff _ _).mpr (by rw [hp]; rfl)
    have hno := List.find?_eq_none.mp hfind i hkey
    rw [hp] at hno
    exact hno (decide_eq_true hc)
  | some i =>
    have hany := List.find?_some hfind
    rcases hs.task_cases i with hi | ⟨p, hi, -⟩
    · rw [hi] at hany
      cases hany
    · rw [hi] at hany
      have hc : p.connection = c := of_decide_eq_true hany
      simp only [Option.bind_some, hi, Task.writer?]
      exact (hlaid.pair i p hi hc).sent

/-- What waits for a connection has come up for it. -/
theorem Recorded.offered_of_waiting (h : s.Recorded c k start seen addressed) {box : Mailbox}
    (hbox : s.hub.mailbox? c = some box) {e : Event} (he : e ∈ box.waiting) :
    start.Holds e ∨ e ∈ seen.filterMap Glimpse.offer? := by
  obtain ⟨d, hd, hlaid⟩ := h.laid
  have hfills := hlaid.mailbox box hbox
  rw [Writer.Fills] at hfills
  by_cases hl : box.intake = .listening
  · rw [if_pos hl] at hfills
    exact Desk.holds_of_follow hd (Or.inl (hfills ▸ he))
  · rw [hfills, if_neg hl] at he
    cases he

end Session

namespace Web

variable {config : Config} {s s' : Session} {c : ConnectionId} {student : StudentId} {x x' : Step}

/-- Two steps are the same to a student: they are equal, or changes of selections which name that
student both or neither. -/
inductive Step.Alike (student : StudentId) : Step → Step → Prop
  | same (x : Step) : Alike student x x
  | publish {ids ids' : List StudentId} (counts : List CourseCount)
    (h : student ∈ ids ↔ student ∈ ids') : Alike student
      (.publish (.selectionsChanged ids counts)) (.publish (.selectionsChanged ids' counts))
  | handle {ids ids' : List StudentId} (counts : List CourseCount)
    (h : student ∈ ids ↔ student ∈ ids') : Alike student
      (.handle (.selectionsChanged ids counts)) (.handle (.selectionsChanged ids' counts))

theorem Step.Alike.eventsFor (h : Step.Alike student x x') :
    Hub.eventsFor (.student student) (x.messages config) =
      Hub.eventsFor (.student student) (x'.messages config) := by
  cases h with
  | same => rfl
  | publish counts h => exact DomainEvent.eventsFor_selectionsChanged h counts
  | handle counts h => exact DomainEvent.eventsFor_selectionsChanged h counts

theorem eventsFor_alike {steps steps' : List Step}
    (h : List.Forall₂ (Step.Alike student) steps steps') :
    Hub.eventsFor (.student student) (steps.flatMap (Step.messages config)) =
      Hub.eventsFor (.student student) (steps'.flatMap (Step.messages config)) := by
  induction h with
  | nil => rfl
  | cons hx _ ih =>
    rw [List.flatMap_cons, List.flatMap_cons, DomainEvent.eventsFor_append,
      DomainEvent.eventsFor_append, ih, hx.eventsFor]

/-- Alike steps keep two sessions in time. -/
theorem Step.Alike.pulse (h : Step.Alike student x x') (hs : s.Sound) (hs' : s'.Sound)
    (hpulse : s.pulse = s'.pulse) : (perform config s x).pulse = (perform config s' x').pulse := by
  have hlasts : x.lasts = x'.lasts := by cases h <;> rfl
  have hopens : x.opens config = x'.opens config := by cases h <;> rfl
  simp only [Session.pulse, Hub.pulse, Prod.mk.injEq] at hpulse
  obtain ⟨hclock, hnext, hcapacity⟩ := hpulse
  rw [pulse_perform hs, pulse_perform hs', hlasts, hopens, hclock, hnext, hcapacity]

theorem pulse_alike {steps steps' : List Step}
    (h : List.Forall₂ (Step.Alike student) steps steps') (hs : s.Sound) (hs' : s'.Sound)
    (hpulse : s.pulse = s'.pulse) : (run config s steps).pulse = (run config s' steps').pulse := by
  induction h generalizing s s' with
  | nil => exact hpulse
  | @cons x x' _ _ hx _ ih =>
    exact ih (hs.step config x) (hs'.step config x') (hx.pulse hs hs' hpulse)

/-- A student's request opens a student's connection, or none. -/
theorem errand_of_student {r : Request}
    (h : identify config.trustIdentity r = .ok (some (.student student))) :
    (errand config r).2 = .nothing ∨ (errand config r).2 = .stream (.student student) ∨
      (errand config r).2 = .upgrade student := by
  unfold errand
  rw [h]
  simp only []
  split
  · exact Or.inl rfl
  · rename_i e _
    split
    · cases e with
      | studentEvents =>
        simp only [Endpoint.errand]
        cases config.studentTransport with
        | sse => exact Or.inr (Or.inl rfl)
        | webSocket =>
          cases Upgrade.objection? r with
          | none => exact Or.inr (Or.inr rfl)
          | some response => exact Or.inl rfl
      | _ => exact Or.inl rfl
    · exact Or.inl rfl

/-- The desk of the connection that a step opens at a moment. -/
def Step.desk (config : Config) (c : ConnectionId) (now : Nat) : Step → Desk
  | http r _ | connect r _ =>
    match (errand config r).2 with
    | .stream _ => .fresh (some (.new c (some (config.keepAliveSeconds * 1000)) now))
    | _ => .fresh none
  | _ => .fresh none

theorem Step.desk_holds (config : Config) (c : ConnectionId) (now : Nat) (x : Step) (e : Event) :
    ¬(x.desk config c now).Holds e := by
  have hfresh (stream : Option Stream) : ¬(Desk.fresh stream).Holds e := by
    rintro (he | he) <;> cases he
  cases x with
  | http r kept =>
    simp only [Step.desk]
    split <;> exact hfresh _
  | connect r failure =>
    simp only [Step.desk]
    split <;> exact hfresh _
  | _ => exact hfresh none

/-- What a student's request opens is recorded from then on. -/
theorem recorded_enter (hs : s.Sound) {r : Request} (hrequest : x.request? = some r)
    (hidentity : identify config.trustIdentity r = .ok (some (.student student)))
    (hopened : x.opens config ≠ 0) :
    (perform config s x).Recorded ⟨s.hub.nextConnection⟩ (.student student)
      (x.desk config ⟨s.hub.nextConnection⟩ s.clock) [] [] := by
  have herrand := errand_of_student hidentity
  have hs' := hs.logAll (errand config r).1
  cases x with
  | http r' kept =>
    cases hrequest
    simp only [Step.opens] at hopened
    rw [perform_http, Step.desk]
    rcases herrand with he | he | he <;> rw [he] at hopened ⊢
    · exact absurd rfl hopened
    · have hbegun := hs'.recorded_openStream config (.student student)
      cases hkept : decide (r.method ≠ "HEAD") && kept with
      | true => exact hbegun
      | false =>
        have hr := (hs'.openStream config (.student student)).running
        exact hbegun.beside_quiet (Session.beside_closeStream hr _ _ _)
    · exact absurd rfl hopened
  | connect r' failure =>
    cases hrequest
    simp only [Step.opens] at hopened
    rw [perform_connect, Step.desk]
    rcases herrand with he | he | he <;> rw [he] at hopened ⊢
    · exact absurd rfl hopened
    · have hbegun := hs'.recorded_openStream config (.student student)
      have hr := (hs'.openStream config (.student student)).running
      exact hbegun.beside_quiet (Session.beside_closeStream hr _ _ _)
    · cases failure with
      | none => exact hs'.recorded_beginGreeting student
      | some why => exact absurd rfl hopened
  | _ => cases hrequest

theorem noticeErrand_of_publish {name : String} {r : Request} {d : DomainEvent}
    (h : (noticeErrand name r).2 = .publish d) : ∃ message, d = .adminNotification message := by
  unfold noticeErrand at h
  split at h
  · cases h
  · simp only [] at h
    split at h
    · cases h
    · split at h
      · cases h
      · cases h
        exact ⟨_, rfl⟩

/-- An endpoint publishes nothing but a notification. -/
theorem endpointErrand_of_publish {e : Endpoint} {r : Request} {identity : Option Identity}
    {d : DomainEvent} (h : (e.errand config r identity).2 = .publish d) :
    ∃ message, d = .adminNotification message := by
  unfold Endpoint.errand at h
  split at h
  · cases h
  · cases h
  · split at h
    · cases h
    · split at h <;> cases h
  · cases h
  · cases h
  · cases h
  · exact noticeErrand_of_publish h
  · cases h

theorem errand_of_publish {r : Request} {d : DomainEvent} (h : (errand config r).2 = .publish d) :
    ∃ message, d = .adminNotification message := by
  unfold errand at h
  split at h
  · cases h
  · simp only [] at h
    split at h
    · cases h
    · split at h
      · exact endpointErrand_of_publish h
      · cases h

/-- Who is told to load the selections again has been named by a change of them. -/
theorem named_of_invalidate {steps : List Step}
    (h : Event.invalidate .selections ∈
      Hub.eventsFor (.student student) (steps.flatMap (Step.messages config))) :
    ∃ ids counts, (.publish (.selectionsChanged ids counts) ∈ steps ∨
      .handle (.selectionsChanged ids counts) ∈ steps) ∧ student ∈ ids := by
  obtain ⟨m, hm, he⟩ := List.mem_map.mp h
  obtain ⟨hm, hcovers⟩ := List.mem_filter.mp hm
  obtain ⟨x, hx, hm⟩ := List.mem_flatMap.mp hm
  have hof {d : DomainEvent} (hd : m ∈ d.plan.messages) :
      ∃ ids counts, d = .selectionsChanged ids counts ∧ student ∈ ids :=
    DomainEvent.named_of_invalidate
      (List.mem_map.mpr ⟨m, List.mem_filter.mpr ⟨hd, hcovers⟩, he⟩)
  have herrand {r : Request} (hr : m ∈ (errand config r).2.messages) : False := by
    cases hd : (errand config r).2 with
    | publish d =>
      rw [hd] at hr
      obtain ⟨message, rfl⟩ := errand_of_publish hd
      obtain ⟨ids, counts, hnone, -⟩ := hof hr
      cases hnone
    | _ =>
      rw [hd] at hr
      cases hr
  cases x with
  | http r kept => exact (herrand hm).elim
  | connect r failure => exact (herrand hm).elim
  | publish d =>
    obtain ⟨ids, counts, rfl, hid⟩ := hof hm
    exact ⟨ids, counts, Or.inl hx, hid⟩
  | handle d =>
    obtain ⟨ids, counts, rfl, hid⟩ := hof hm
    exact ⟨ids, counts, Or.inr hx, hid⟩
  | _ => cases hm

/-! ### Blocks -/

/-- The blocks that a step reads from the body of a connection. -/
def Step.blocks (s : Session) (c : ConnectionId) : Step → List String
  | .read i limit =>
    if (s.streams.get? i).any (·.connection = c) then
      ((s.readStream i limit).1.map Prod.fst).getD []
    else []
  | _ => []

/-- The blocks that are read from the body of a connection in a run. -/
def blocksTo (config : Config) (c : ConnectionId) : Session → List Step → List String
  | _, [] => []
  | s, x :: rest => x.blocks s c ++ blocksTo config c (perform config s x) rest

theorem blocks_writer (w : Writer) (box : Mailbox) :
    (w.glimpses box).flatMap Glimpse.blocks = [] := by
  unfold Writer.glimpses
  split
  · split
    · split
      · split <;> rfl
      · rfl
    · split
      · rfl
      · split
        · split <;> rfl
        · rfl
  · rfl

/-- No body is read while a session goes on by itself. -/
theorem blocks_move (s : Session) (c : ConnectionId) (m : Move) :
    (s.glimpses c m).flatMap Glimpse.blocks = [] := by
  cases m with
  | apply =>
    rw [Session.glimpses]
    induction s.hub.offering c with
    | nil => rfl
    | cons e rest ih => exact ih
  | write i =>
    rw [Session.glimpses]
    split
    · split
      · split
        · exact blocks_writer _ _
        · rfl
      · rfl
    · rfl
  | _ => rfl

theorem blocks_moves (s : Session) (c : ConnectionId) (moves : List Move) :
    (Session.transcript c s moves).flatMap Glimpse.blocks = [] := by
  induction moves generalizing s with
  | nil => rfl
  | cons m rest ih =>
    rw [Session.transcript, List.flatMap_append, blocks_move, ih]
    rfl

theorem blocks_errand (s : Session) (c : ConnectionId) (e : Errand) :
    (e.glimpses s c).flatMap Glimpse.blocks = [] := by
  cases e with
  | figures => exact blocks_moves _ _ _
  | _ => rfl

/-- The blocks that a step reads are seen. -/
theorem blocks_step (config : Config) (s : Session) (c : ConnectionId) (x : Step) :
    (x.glimpses config s c).flatMap Glimpse.blocks = x.blocks s c := by
  cases x with
  | http r kept => exact blocks_errand _ _ _
  | connect r failure => exact blocks_errand _ _ _
  | greet i =>
    simp only [Step.glimpses]
    split
    · split <;> rfl
    · rfl
  | read i limit =>
    simp only [Step.glimpses, Session.reading, Step.blocks]
    cases s.streams.get? i with
    | none => rfl
    | some y =>
      by_cases hc : y.connection = c
      · have hany : (some y).any (fun z : Stream => z.connection = c) = true := decide_eq_true hc
        rw [if_pos hany]
        simp only [if_pos hc]
        cases (s.readStream i limit).1 with
        | none => rfl
        | some result => exact List.append_nil _
      · have hany : ¬(some y).any (fun z : Stream => z.connection = c) = true :=
          fun h => hc (of_decide_eq_true h)
        rw [if_neg hany]
        simp only [if_neg hc]
        rfl
  | bytes i data =>
    simp only [Step.glimpses, Session.hearing]
    split
    · split <;> rfl
    · rfl
  | lose i =>
    simp only [Step.glimpses, Session.hearing]
    split
    · split <;> rfl
    · rfl
  | advance ms => exact blocks_moves _ _ _
  | move m =>
    simp only [Step.glimpses]
    split
    · rfl
    · exact blocks_move _ _ _
  | settle => exact blocks_moves _ _ _
  | _ => rfl

/-- Every block that is read has been seen. -/
theorem blocksTo_eq (config : Config) (c : ConnectionId) (s : Session) (steps : List Step) :
    blocksTo config c s steps = (transcript config c s steps).flatMap Glimpse.blocks := by
  induction steps generalizing s with
  | nil => rfl
  | cons x rest ih => rw [blocksTo, transcript, List.flatMap_append, blocks_step, ih]

/-! ### Visits -/

/-- The session in which a step has been made after others. -/
def entered (config : Config) (start : Session) (before : List Step) (x : Step) : Session :=
  perform config (run config start before) x

/-- The connection that is the next to be opened. -/
def nextClient (config : Config) (start : Session) (before : List Step) : ConnectionId :=
  ⟨(run config start before).hub.nextConnection⟩

/-- What is seen of the steps that follow at the connection which a step opens. The blocks that its
client reads are in it. -/
def visit (config : Config) (start : Session) (before : List Step) (x : Step)
    (after : List Step) : List Glimpse :=
  transcript config (nextClient config start before) (entered config start before x) after

/-- The session at the end of a visit. -/
def leaving (config : Config) (start : Session) (before : List Step) (x : Step)
    (after : List Step) : Session :=
  run config (entered config start before x) after

/-- An event reaches the connection that a step opens: it is seen there, or waits for it. -/
def Reaches (config : Config) (start : Session) (before : List Step) (x : Step)
    (after : List Step) (e : Event) : Prop :=
  (∃ g ∈ visit config start before x after, g.event? = some e) ∨
    ∃ box, (leaving config start before x after).hub.mailbox? (nextClient config start before) =
      some box ∧ e ∈ box.waiting

variable {start : Session} {before before' after after' : List Step} {r : Request}

/-- A visit of a student is recorded. -/
theorem recorded_visit (hstart : Session.ofConfig? config = .ok start)
    (hidentity : identify config.trustIdentity r = .ok (some (.student student)))
    (hrequest : x.request? = some r) (hopened : x.opens config ≠ 0) (before after : List Step) :
    (leaving config start before x after).Recorded (nextClient config start before)
      (.student student)
      (x.desk config (nextClient config start before) (run config start before).clock)
      (visit config start before x after)
      (Hub.eventsFor (.student student) (after.flatMap (Step.messages config))) := by
  have hs := (Session.sound_ofConfig hstart).run config before
  exact (recorded_enter hs hrequest hidentity hopened).run (hs.step config x) config after

/-- What reaches a student's connection has been addressed to it. -/
theorem addressed_of_reaches (hstart : Session.ofConfig? config = .ok start)
    (hidentity : identify config.trustIdentity r = .ok (some (.student student)))
    (hrequest : x.request? = some r) (hopened : x.opens config ≠ 0) {e : Event}
    (h : Reaches config start before x after e) :
    e ∈ Hub.eventsFor (.student student) (after.flatMap (Step.messages config)) := by
  have hrecorded := recorded_visit hstart hidentity hrequest hopened before after
  have hoffers := (List.prefix_append _ _).trans hrecorded.owes.part
  obtain ⟨d, hd, -⟩ := hrecorded.laid
  have hseen : (x.desk config (nextClient config start before)
      (run config start before).clock).Holds e ∨
      e ∈ (visit config start before x after).filterMap Glimpse.offer? := by
    rcases h with ⟨g, hg, he⟩ | ⟨box, hbox, he⟩
    · exact Desk.offered_of_seen (by rw [hd]; rfl) hg he
    · exact hrecorded.offered_of_waiting hbox he
  rcases hseen with hold | hoffer
  · exact absurd hold (x.desk_holds config _ _ e)
  · exact hoffers.subset hoffer

/-- The stream of a student does not depend on changes to other students. Two sessions under one
configuration take the same steps, except that their changes of selections may name other students,
as long as both name this one or neither does. A client whose request was resolved to this student
gets the same frames and reads the same blocks in both, if its own reads, writes and input come at
the same points between the events that come up for it. And it is told to load its selections again
only after a change of selections that names it. -/
theorem student_secluded (hstart : Session.ofConfig? config = .ok start)
    (hidentity : identify config.trustIdentity r = .ok (some (.student student)))
    (hrequest : x.request? = some r)
    (hopened : (entered config start before x).hub.nextConnection ≠
      (run config start before).hub.nextConnection)
    (hbefore : List.Forall₂ (Step.Alike student) before before')
    (hafter : List.Forall₂ (Step.Alike student) after after')
    (hreads : List.Forall₂ Glimpse.Alike (visit config start before x after)
      (visit config start before' x after')) :
    (leaving config start before x after).framesTo (nextClient config start before) =
        (leaving config start before' x after').framesTo (nextClient config start before') ∧
      blocksTo config (nextClient config start before) (entered config start before x) after =
        blocksTo config (nextClient config start before') (entered config start before' x) after' ∧
      visit config start before x after = visit config start before' x after' ∧
      (Reaches config start before x after (.invalidate .selections) →
        ∃ ids counts, (.publish (.selectionsChanged ids counts) ∈ after ∨
          .handle (.selectionsChanged ids counts) ∈ after) ∧ student ∈ ids) := by
  have hsound := Session.sound_ofConfig hstart
  have hs := hsound.run config before
  have hs' := hsound.run config before'
  -- The client has the same number in both, and comes in at the same moment.
  have hpulse : (run config start before).pulse = (run config start before').pulse :=
    pulse_alike hbefore hsound hsound rfl
  have hopens : x.opens config ≠ 0 := by
    intro hnone
    have hbeat : (entered config start before x).pulse = _ := pulse_perform hs x
    rw [hnone] at hbeat
    exact hopened (congrArg (·.2.1) hbeat)
  have hclient : nextClient config start before = nextClient config start before' :=
    congrArg ConnectionId.mk (congrArg (·.2.1) hpulse)
  have hclock : (run config start before).clock = (run config start before').clock :=
    congrArg (·.1) hpulse
  have hsame : Step.Alike student x x := .same x
  have hentered : (entered config start before x).pulse = (entered config start before' x).pulse :=
    hsame.pulse hs hs' hpulse
  have hleaving : (leaving config start before x after).pulse =
      (leaving config start before' x after').pulse :=
    pulse_alike hafter (hs.step config x) (hs'.step config x) hentered
  have hcapacity : (leaving config start before x after).hub.capacity =
      (leaving config start before' x after').hub.capacity := congrArg (·.2.2) hleaving
  have hrecorded := recorded_visit hstart hidentity hrequest hopens before after
  have hrecorded' := recorded_visit hstart hidentity hrequest hopens before' after'
  -- What has come up in either is the beginning of what was addressed, and equally long.
  have hoffers : (visit config start before x after).filterMap Glimpse.offer? =
      (visit config start before' x after').filterMap Glimpse.offer? := by
    have hpart := (List.prefix_append _ _).trans hrecorded.owes.part
    have hpart' := (List.prefix_append _ _).trans hrecorded'.owes.part
    rw [eventsFor_alike hafter] at hpart
    have hlength := Glimpse.length_offers hreads
    exact (List.prefix_of_prefix_length_le hpart hpart' (Nat.le_of_eq hlength)).eq_of_length hlength
  have hvisit : visit config start before x after = visit config start before' x after' := by
    obtain ⟨d, hd, -⟩ := hrecorded.laid
    obtain ⟨d', hd', -⟩ := hrecorded'.laid
    rw [← hclient, ← hclock, ← hcapacity] at hd'
    exact Desk.follow_unique hreads hoffers (by rw [hd]; rfl) (by rw [hd']; rfl)
  refine ⟨?_, ?_, hvisit, fun hreach => ?_⟩
  · rw [hrecorded.framesTo_eq ((hs.step config x).run config after),
      hrecorded'.framesTo_eq ((hs'.step config x).run config after'), hvisit]
  · rw [blocksTo_eq, blocksTo_eq]
    exact congrArg (List.flatMap Glimpse.blocks) hvisit
  · exact named_of_invalidate (addressed_of_reaches hstart hidentity hrequest hopens hreach)

/-- Student 7 reads the same block whether or not student 8 is named beside it, or alone before. -/
theorem student_secluded_seven :
    let config : Config :=
      { Config.standard with studentTransport := .sse, trustIdentity := true }
    let ask : Step :=
      .http ⟨"GET", ⟨"", "/student/api/events", none⟩, [("x-student-id", [0x37])], [], false⟩ true
    let changes (others : List StudentId) (all : List StudentId) : List Step :=
      [.publish (.selectionsChanged others []), .publish (.selectionsChanged all []), .settle,
        .read 0 none]
    ∃ start, Session.ofConfig? config = .ok start ∧
      visit config start [] ask (changes [8] [7, 8]) =
        [.offered (.invalidate .selections), .read 0 none ["event: invalidate_selections\n\n"]] ∧
      visit config start [] ask (changes [8] [7, 8]) = visit config start [] ask (changes [] [7]) ∧
      blocksTo config (nextClient config start []) (entered config start [] ask)
          (changes [8] [7, 8]) =
        blocksTo config (nextClient config start []) (entered config start [] ask)
          (changes [] [7]) := by
  intro config ask changes
  let start : Session := (Session.start 256 (by decide)).onHub fun hub =>
    { hub with journal := Session.settings config :: hub.journal }
  have hstart : Session.ofConfig? config = .ok start := rfl
  have hvisit : visit config start [] ask (changes [8] [7, 8]) =
      [.offered (.invalidate .selections), .read 0 none ["event: invalidate_selections\n\n"]] := by
    decide +kernel
  have hvisit' : visit config start [] ask (changes [] [7]) =
      [.offered (.invalidate .selections), .read 0 none ["event: invalidate_selections\n\n"]] := by
    decide +kernel
  have hidentity : identify config.trustIdentity
      ⟨"GET", ⟨"", "/student/api/events", none⟩, [("x-student-id", [0x37])], [], false⟩ =
        .ok (some (.student 7)) := rfl
  have hopened : (entered config start [] ask).hub.nextConnection ≠
      (run config start []).hub.nextConnection := by decide +kernel
  have hafter : List.Forall₂ (Step.Alike 7) (changes [8] [7, 8]) (changes [] [7]) :=
    .cons (.publish [] (by decide)) (.cons (.publish [] (by decide))
      (.cons (.same .settle) (.cons (.same (.read 0 none)) .nil)))
  have hreads : List.Forall₂ Glimpse.Alike (visit config start [] ask (changes [8] [7, 8]))
      (visit config start [] ask (changes [] [7])) := by
    rw [hvisit, hvisit']
    exact List.forall₂_same.mpr fun g _ => .refl g
  obtain ⟨-, hblocks, hsame, -⟩ :=
    student_secluded hstart hidentity rfl hopened .nil hafter hreads
  exact ⟨start, hstart, hvisit, hsame, hblocks⟩

end Web
end LiveUpdate
