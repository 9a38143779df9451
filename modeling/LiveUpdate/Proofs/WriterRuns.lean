import LiveUpdate.Proofs.Progress
import LiveUpdate.Proofs.WriterLedger

/-! A writer on its own, from its first step to its end. Events are enqueued for it, the hub lets
go of its mailbox, and its transport stalls, recovers and fails, all at any time. The events that it
has taken are those that it has dealt with, written or skipped, and at most one more; and it ends
for one of four reasons, of which an event that cannot be encoded is none. -/
namespace LiveUpdate

/-- What can happen to a writer, at either of its ends. -/
inductive Occurrence
  | enqueue (e : Event)
  /-- The hub lets go of the mailbox. -/
  | close
  /-- The transport stalls or takes frames, and it is settled when it will fail. -/
  | transport (ready : Bool) (breaksAfter : Option (Nat × String)) (closeFails : Option String)
  | step
  deriving DecidableEq, Repr

/-- A writer with its mailbox, and what has come of both so far. -/
structure Writing where
  writer : Writer
  box : Mailbox
  /-- The events for which there was room in the mailbox. -/
  enqueued : List Event
  /-- The events that the writer has taken out of it. -/
  taken : List Event
  journal : List Entry

/-- What the journal says of an event with which a writer has dealt. -/
def Encoder.note (encode : Encoder) (c : ConnectionId) (e : Event) : List Entry :=
  match encode e with
  | .frame _ => [.wrote e c]
  | .refused why => [.skipped e c why]
  | .crashed _ => []

/-- Why a writer has ended. -/
inductive Ending
  /-- The mailbox is closed and empty, and so the transport is closed. -/
  | finished
  | writeFailed (e : Event) (content why : String)
  | closeFailed (why : String)
  /-- The encoder itself breaks down. -/
  | crashed (e : Event) (words : String)
  deriving DecidableEq, Repr

namespace Ending

def outcome : Ending → Outcome
  | finished => .finished
  | writeFailed _ _ why | closeFailed why => .stopped (.transport (some why))
  | crashed _ words => .panicked words

/-- The event that is lost with the writer, though it was taken. -/
def hand : Ending → List Event
  | writeFailed e _ _ | crashed e _ => [e]
  | finished | closeFailed _ => []

/-- What the journal says of the end. -/
def report (c : ConnectionId) : Ending → List Entry
  | finished | closeFailed _ => [.queueClosed c]
  | writeFailed _ _ why => [.writeFailed c why]
  | crashed _ _ => []

/-- What closing has told the client. -/
def farewell (sink : Sink) : Ending → List Outgoing
  | finished => sink.farewell.toList
  | _ => []

theorem isLive_outcome (ending : Ending) : ending.outcome.isLive = false := by
  cases ending <;> rfl

end Ending

/-- A transport that is dropped would still fail to write for the same reason. -/
theorem Sink.write_drop {sink : Sink} {frame : Outgoing} {why : String}
    (h : sink.write frame = .error why) : sink.drop.write frame = .error why := by
  cases hb : sink.breaksAfter with
  | none => simp [write, hb] at h
  | some limit =>
    by_cases hfull : limit.1 ≤ sink.sent.length
    · simpa [write, drop, hb, hfull] using h
    · simp [write, hb, hfull] at h

namespace Writing

def new (c : ConnectionId) (encode : Encoder) (sink : Sink) : Writing :=
  ⟨.new c encode { sink with closed := false, dropped := false } .running, .fresh, [], [], []⟩

/-- What the next step takes out of the mailbox. -/
def taking (p : Writing) : List Event :=
  if p.writer.outcome = .running ∧ p.writer.inHand = none then p.box.take.1.toList else []

def occur (capacity : Nat) (p : Writing) : Occurrence → Writing
  | .enqueue e =>
    if p.box.attached then
      let (delivery, box) := p.box.offer capacity e
      { p with box, enqueued := if delivery = .delivered then p.enqueued ++ [e] else p.enqueued }
    else p
  | .close => { p with box := p.box.detach }
  | .transport ready breaksAfter closeFails =>
    if p.writer.outcome.isLive then
      let sink := { p.writer.sink with ready, breaksAfter, closeFails }
      { p with writer := { p.writer with sink } }
    else p
  | .step =>
    let (writer, box, entries) := p.writer.step p.box
    { p with writer, box, taken := p.taken ++ p.taking, journal := p.journal ++ entries }

def occurAll (capacity : Nat) (p : Writing) (occurrences : List Occurrence) : Writing :=
  occurrences.foldl (occur capacity) p

variable {p : Writing} {c : ConnectionId} {encode : Encoder} {sink : Sink} {capacity : Nat}
  {dealt : List Event} {e : Event} {content : String} {rest : List Event}

/-- What holds of the events with which a writer has dealt: all of them are written or skipped, in
their order, and nothing else is. -/
structure Deals (p : Writing) (c : ConnectionId) (encode : Encoder) (sink : Sink)
    (dealt : List Event) (said : List Outgoing) (noted : List Entry) : Prop where
  encodes : ∀ e ∈ dealt, ∀ words, encode e ≠ .crashed words
  sent : p.writer.sink.sent = sink.sent ++ encode.frames dealt ++ said
  journal : p.journal = dealt.flatMap (encode.note c) ++ noted

/-- A writer that goes on. -/
structure Going (p : Writing) (c : ConnectionId) (encode : Encoder) (sink : Sink) (capacity : Nat)
    (dealt : List Event) : Prop where
  deals : p.Deals c encode sink dealt [] []
  outcome : p.writer.outcome = .running
  taken : p.taken = dealt ++ p.writer.holding
  enqueued : p.enqueued = p.taken ++ p.box.waiting
  room : p.box.waiting.length ≤ capacity
  listening : p.box.intake = .listening
  connection : p.writer.connection = c
  encoder : p.writer.encode = encode
  inHand : ∀ e content, p.writer.inHand = some (e, content) → encode e = .frame content
  farewell : p.writer.sink.farewell = sink.farewell
  closed : p.writer.sink.closed = false
  dropped : p.writer.sink.dropped = false

/-- What has to be so for a writer to end like this. -/
def Grounds (p : Writing) (encode : Encoder) : Ending → Prop
  | .finished => p.box.attached = false ∧ p.enqueued = p.taken ∧ p.writer.sink.closeFails = none
  | .closeFailed why =>
    p.box.attached = false ∧ p.enqueued = p.taken ∧ p.writer.sink.closeFails = some why
  | .writeFailed e content why =>
    encode e = .frame content ∧ p.writer.sink.write (.text content) = .error why
  | .crashed e words => encode e = .crashed words

/-- A writer that has ended. Its transport is dropped, closed only after an end in order. -/
structure Ended (p : Writing) (c : ConnectionId) (encode : Encoder) (sink : Sink)
    (dealt : List Event) (ending : Ending) : Prop where
  deals : p.Deals c encode sink dealt (ending.farewell sink) (ending.report c)
  outcome : p.writer.outcome = ending.outcome
  taken : p.taken = dealt ++ ending.hand
  enqueued : ∃ lost, p.enqueued = p.taken ++ lost
  gone : p.box.intake = .gone
  grounds : p.Grounds encode ending
  closed : p.writer.sink.closed = true ↔ ending = .finished
  dropped : p.writer.sink.dropped = true
  inHand : p.writer.inHand = none

/-- Every writer goes on or has ended for a reason. -/
inductive Stands (p : Writing) (c : ConnectionId) (encode : Encoder) (sink : Sink) (capacity : Nat)
    (dealt : List Event) : Prop
  | going (h : p.Going c encode sink capacity dealt)
  | ended (ending : Ending) (h : p.Ended c encode sink dealt ending)

theorem Deals.congr {p' : Writing} {said : List Outgoing} {noted : List Entry}
    (h : p.Deals c encode sink dealt said noted)
    (hsent : p'.writer.sink.sent = p.writer.sink.sent) (hjournal : p'.journal = p.journal) :
    p'.Deals c encode sink dealt said noted :=
  ⟨h.encodes, hsent.trans h.sent, hjournal.trans h.journal⟩

theorem going_new (c : ConnectionId) (encode : Encoder) (sink : Sink) (capacity : Nat) :
    (new c encode sink).Going c encode sink capacity [] where
  deals := ⟨by simp, by simp [new, Writer.new, Encoder.frames], rfl⟩
  outcome := rfl
  taken := rfl
  enqueued := rfl
  room := Nat.zero_le _
  listening := rfl
  connection := rfl
  encoder := rfl
  inHand e content h := by cases h
  farewell := rfl
  closed := rfl
  dropped := rfl

/-! ### At the mailbox and the transport -/

/-- An event is enqueued if there is room for it, and otherwise nothing happens. -/
theorem Going.enqueue (h : p.Going c encode sink capacity dealt) (e : Event) :
    (p.occur capacity (.enqueue e)).Going c encode sink capacity dealt := by
  by_cases hattached : p.box.attached
  · by_cases hroom : p.box.waiting.length < capacity
    · have hoccur : p.occur capacity (.enqueue e) =
          { p with
            box := { p.box with waiting := p.box.waiting ++ [e] }
            enqueued := p.enqueued ++ [e] } := by
        simp [occur, Mailbox.offer, hattached, h.listening, hroom]
      rw [hoccur]
      refine { h with deals := h.deals.congr rfl rfl, enqueued := ?_, room := ?_ }
      · simp [h.enqueued]
      · simpa using hroom
    · have hoccur : p.occur capacity (.enqueue e) = p := by
        simp [occur, Mailbox.offer, hattached, h.listening, hroom]
      rwa [hoccur]
  · have hoccur : p.occur capacity (.enqueue e) = p := by simp [occur, hattached]
    rwa [hoccur]

theorem Going.close (h : p.Going c encode sink capacity dealt) :
    (p.occur capacity .close).Going c encode sink capacity dealt :=
  { h with deals := h.deals.congr rfl rfl }

theorem Going.transport (h : p.Going c encode sink capacity dealt) (ready : Bool)
    (breaksAfter : Option (Nat × String)) (closeFails : Option String) :
    (p.occur capacity (.transport ready breaksAfter closeFails)).Going c encode sink capacity
      dealt := by
  have hlive : p.writer.outcome.isLive = true := by simp [h.outcome, Outcome.isLive]
  simp only [occur, hlive, if_true]
  exact { h with deals := h.deals.congr rfl rfl }

/-! ### Steps -/

/-- One more event is dealt with. -/
theorem Deals.snoc {p' : Writing} (h : p.Deals c encode sink dealt [] [])
    (he : ∀ words, encode e ≠ .crashed words)
    (hsent : p'.writer.sink.sent = p.writer.sink.sent ++ encode.frames [e])
    (hjournal : p'.journal = p.journal ++ encode.note c e) :
    p'.Deals c encode sink (dealt ++ [e]) [] [] where
  encodes e' hmem := by
    rcases List.mem_append.mp hmem with hmem | hmem
    · exact h.encodes e' hmem
    · rwa [List.mem_singleton.mp hmem]
  sent := by simp [hsent, h.sent]
  journal := by simp [hjournal, h.journal]

/-- The end itself changes nothing about the events that were dealt with before. -/
theorem Deals.finish {p' : Writing} (h : p.Deals c encode sink dealt [] [])
    {said : List Outgoing} {noted : List Entry}
    (hsent : p'.writer.sink.sent = p.writer.sink.sent ++ said)
    (hjournal : p'.journal = p.journal ++ noted) :
    p'.Deals c encode sink dealt said noted where
  encodes := h.encodes
  sent := by simp [hsent, h.sent]
  journal := by simp [hjournal, h.journal]

theorem wait (hcan : p.writer.canGo p.box = false) (hlive : p.writer.outcome = .running) :
    p.occur capacity .step = p := by
  have htaking : p.taking = [] := by
    cases hhand : p.writer.inHand with
    | some hand => simp [taking, hhand]
    | none =>
      have hempty : p.box.waiting = [] := by
        simp only [Writer.canGo, hlive, hhand, decide_true, Bool.true_and, Bool.or_eq_false_iff,
          Bool.not_eq_false', List.isEmpty_iff] at hcan
        exact hcan.1
      simp [taking, Mailbox.take, hempty]
  simp [occur, Writer.step_of_idle hcan, htaking]

theorem Going.write (h : p.Going c encode sink capacity dealt) {sink' : Sink}
    (hhand : p.writer.inHand = some (e, content)) (hready : p.writer.sink.ready = true)
    (hwrite : p.writer.sink.write (.text content) = .ok sink') :
    (p.occur capacity .step).Going c encode sink capacity (dealt ++ [e]) := by
  have hoccur : p.occur capacity .step =
      { p with
        writer := { p.writer with sink := sink', inHand := none }
        journal := p.journal ++ [.wrote e p.writer.connection] } := by
    simp [occur, Writer.step, Writer.writeInHand, taking, h.outcome, hhand, hready, hwrite]
  have hframe := h.inHand e content hhand
  obtain rfl := Sink.write_ok hwrite
  rw [hoccur]
  refine { h with deals := ?_, taken := ?_, inHand := ?_ }
  · exact h.deals.snoc (by simp [hframe]) (by simp [Encoder.frames_of_frame hframe])
      (by simp [Encoder.note, hframe, h.connection])
  · simp [h.taken, Writer.holding, hhand]
  · simp

theorem Going.failToWrite (h : p.Going c encode sink capacity dealt) {why : String}
    (hhand : p.writer.inHand = some (e, content)) (hready : p.writer.sink.ready = true)
    (hwrite : p.writer.sink.write (.text content) = .error why) :
    (p.occur capacity .step).Ended c encode sink dealt (.writeFailed e content why) := by
  have hoccur : p.occur capacity .step =
      { p with
        writer := p.writer.finish p.writer.sink (.stopped (.transport (some why)))
        box := p.box.abandon
        journal := p.journal ++ [.writeFailed p.writer.connection why] } := by
    simp [occur, Writer.step, Writer.writeInHand, taking, h.outcome, hhand, hready, hwrite]
  rw [hoccur]
  exact {
    deals := h.deals.finish (by simp [Writer.finish, Sink.drop, Ending.farewell])
      (by simp [Ending.report, h.connection])
    outcome := rfl
    taken := by simp [h.taken, Writer.holding, hhand, Ending.hand]
    enqueued := ⟨_, h.enqueued⟩
    gone := rfl
    grounds := ⟨h.inHand e content hhand, Sink.write_drop hwrite⟩
    closed := by simp [Writer.finish, Sink.drop, h.closed]
    dropped := rfl
    inHand := rfl }

theorem Going.room_of_cons (h : p.Going c encode sink capacity dealt)
    (hw : p.box.waiting = e :: rest) : rest.length ≤ capacity := by
  have hroom := h.room
  rw [hw, List.length_cons] at hroom
  exact Nat.le_of_succ_le hroom

theorem Going.take (h : p.Going c encode sink capacity dealt) (hhand : p.writer.inHand = none)
    (hw : p.box.waiting = e :: rest) (he : encode e = .frame content) :
    (p.occur capacity .step).Going c encode sink capacity dealt := by
  have hoccur : p.occur capacity .step =
      { p with
        writer := { p.writer with inHand := some (e, content) }
        box := { p.box with waiting := rest }
        taken := p.taken ++ [e] } := by
    simp [occur, Writer.step, Writer.encodeTaken, taking, Mailbox.take, h.outcome, hhand, hw,
      h.encoder, he]
  rw [hoccur]
  refine { h with
    deals := ?_, taken := ?_, enqueued := ?_, room := h.room_of_cons hw, inHand := ?_ }
  · exact h.deals.congr rfl rfl
  · simp [h.taken, Writer.holding, hhand]
  · simp [h.enqueued, hw]
  · rintro _ _ ⟨⟩
    exact he

/-- An event that cannot be encoded is left out, and that is all. -/
theorem Going.occur_of_refused (h : p.Going c encode sink capacity dealt) {why : Fault}
    (hhand : p.writer.inHand = none) (hw : p.box.waiting = e :: rest)
    (he : encode e = .refused why) :
    p.occur capacity .step =
      { p with
        box := { p.box with waiting := rest }
        taken := p.taken ++ [e]
        journal := p.journal ++ [.skipped e c why] } := by
  simp [occur, Writer.step, Writer.encodeTaken, taking, Mailbox.take, h.outcome, hhand, hw,
    h.encoder, h.connection, he]

theorem Going.skip (h : p.Going c encode sink capacity dealt) {why : Fault}
    (hhand : p.writer.inHand = none) (hw : p.box.waiting = e :: rest)
    (he : encode e = .refused why) :
    (p.occur capacity .step).Going c encode sink capacity (dealt ++ [e]) := by
  rw [h.occur_of_refused hhand hw he]
  refine { h with deals := ?_, taken := ?_, enqueued := ?_, room := h.room_of_cons hw }
  · exact h.deals.snoc (by simp [he]) (by simp [Encoder.frames_of_refused he])
      (by simp [Encoder.note, he])
  · simp [h.taken, Writer.holding, hhand]
  · simp [h.enqueued, hw]

theorem Going.crash (h : p.Going c encode sink capacity dealt) {words : String}
    (hhand : p.writer.inHand = none) (hw : p.box.waiting = e :: rest)
    (he : encode e = .crashed words) :
    (p.occur capacity .step).Ended c encode sink dealt (.crashed e words) := by
  have hoccur : p.occur capacity .step =
      { p with
        writer := p.writer.finish p.writer.sink (.panicked words)
        box := ({ p.box with waiting := rest } : Mailbox).abandon
        taken := p.taken ++ [e] } := by
    simp [occur, Writer.step, Writer.encodeTaken, taking, Mailbox.take, h.outcome, hhand, hw,
      h.encoder, he]
  rw [hoccur]
  exact {
    deals := h.deals.finish (by simp [Writer.finish, Sink.drop, Ending.farewell])
      (by simp [Ending.report])
    outcome := rfl
    taken := by simp [h.taken, Writer.holding, hhand, Ending.hand]
    enqueued := ⟨rest, by simp [h.enqueued, hw]⟩
    gone := rfl
    grounds := he
    closed := by simp [Writer.finish, Sink.drop, h.closed]
    dropped := rfl
    inHand := rfl }

theorem Going.finish (h : p.Going c encode sink capacity dealt) (hhand : p.writer.inHand = none)
    (hw : p.box.waiting = []) (hattached : p.box.attached = false)
    (hclose : p.writer.sink.closeFails = none) :
    (p.occur capacity .step).Ended c encode sink dealt .finished := by
  have hclosed : p.box.isClosed = true := by simp [Mailbox.isClosed, hattached]
  have hoccur : p.occur capacity .step =
      { p with
        writer := p.writer.finish
          { p.writer.sink with
            sent := p.writer.sink.sent ++ p.writer.sink.farewell.toList
            farewell := none
            closed := true } .finished
        box := p.box.abandon
        journal := p.journal ++ [.queueClosed p.writer.connection] } := by
    simp [occur, Writer.step, Writer.closeTransport, Sink.close, taking, Mailbox.take, h.outcome,
      hhand, hw, hclosed, hclose]
  rw [hoccur]
  exact {
    deals := h.deals.finish (by simp [Writer.finish, Sink.drop, Ending.farewell, h.farewell])
      (by simp [Ending.report, h.connection])
    outcome := rfl
    taken := by simp [h.taken, Writer.holding, hhand, Ending.hand]
    enqueued := ⟨[], by simp [h.enqueued, hw]⟩
    gone := rfl
    grounds := ⟨hattached, by simp [h.enqueued, hw], hclose⟩
    closed := by simp [Writer.finish, Sink.drop]
    dropped := rfl
    inHand := rfl }

theorem Going.failToClose (h : p.Going c encode sink capacity dealt) {why : String}
    (hhand : p.writer.inHand = none) (hw : p.box.waiting = [])
    (hattached : p.box.attached = false) (hclose : p.writer.sink.closeFails = some why) :
    (p.occur capacity .step).Ended c encode sink dealt (.closeFailed why) := by
  have hclosed : p.box.isClosed = true := by simp [Mailbox.isClosed, hattached]
  have hoccur : p.occur capacity .step =
      { p with
        writer := p.writer.finish p.writer.sink (.stopped (.transport (some why)))
        box := p.box.abandon
        journal := p.journal ++ [.queueClosed p.writer.connection] } := by
    simp [occur, Writer.step, Writer.closeTransport, Sink.close, taking, Mailbox.take, h.outcome,
      hhand, hw, hclosed, hclose]
  rw [hoccur]
  exact {
    deals := h.deals.finish (by simp [Writer.finish, Sink.drop, Ending.farewell])
      (by simp [Ending.report, h.connection])
    outcome := rfl
    taken := by simp [h.taken, Writer.holding, hhand, Ending.hand]
    enqueued := ⟨[], by simp [h.enqueued, hw]⟩
    gone := rfl
    grounds := ⟨hattached, by simp [h.enqueued, hw], hclose⟩
    closed := by simp [Writer.finish, Sink.drop, h.closed]
    dropped := rfl
    inHand := rfl }

/-- What a step can do, and that there is nothing else. -/
theorem Going.step (h : p.Going c encode sink capacity dealt) :
    ∃ dealt, (p.occur capacity .step).Stands c encode sink capacity dealt := by
  by_cases hcan : p.writer.canGo p.box = false
  · rw [wait hcan h.outcome]
    exact ⟨dealt, .going h⟩
  cases hhand : p.writer.inHand with
  | some hand =>
    obtain ⟨e, content⟩ := hand
    have hready : p.writer.sink.ready = true := by
      simpa [Writer.canGo, h.outcome, hhand] using hcan
    cases hwrite : p.writer.sink.write (.text content) with
    | ok sink' => exact ⟨_, .going (h.write hhand hready hwrite)⟩
    | error why => exact ⟨dealt, .ended _ (h.failToWrite hhand hready hwrite)⟩
  | none =>
    cases hw : p.box.waiting with
    | cons e rest =>
      cases he : encode e with
      | frame content => exact ⟨dealt, .going (h.take hhand hw he)⟩
      | refused why => exact ⟨_, .going (h.skip hhand hw he)⟩
      | crashed words => exact ⟨dealt, .ended _ (h.crash hhand hw he)⟩
    | nil =>
      have hattached : p.box.attached = false := by
        simpa [Writer.canGo, Mailbox.isClosed, h.outcome, h.listening, hhand, hw] using hcan
      cases hclose : p.writer.sink.closeFails with
      | none => exact ⟨dealt, .ended _ (h.finish hhand hw hattached hclose)⟩
      | some why => exact ⟨dealt, .ended _ (h.failToClose hhand hw hattached hclose)⟩

/-! ### Afterwards -/

/-- A writer that has ended has said and done its last. -/
theorem occur_of_ended (hlive : p.writer.outcome.isLive = false) (hgone : p.box.intake = .gone)
    (capacity : Nat) (o : Occurrence) :
    ∃ box, p.occur capacity o = { p with box } ∧ box.intake = .gone ∧
      (p.box.attached = false → box.attached = false) := by
  cases o with
  | enqueue e =>
    refine ⟨p.box, ?_, hgone, id⟩
    by_cases hattached : p.box.attached <;> simp [occur, Mailbox.offer, hattached, hgone]
  | close => exact ⟨p.box.detach, rfl, hgone, fun _ => rfl⟩
  | transport => exact ⟨p.box, by simp [occur, hlive], hgone, id⟩
  | step =>
    have hrunning : p.writer.outcome ≠ .running := by
      intro hr
      simp [hr, Outcome.isLive] at hlive
    exact ⟨p.box, by simp [occur, Writer.step_of_ended hlive, taking, hrunning], hgone, id⟩

theorem Grounds.detached {ending : Ending} (h : p.Grounds encode ending) {box : Mailbox}
    (hbox : p.box.attached = false → box.attached = false) :
    ({ p with box } : Writing).Grounds encode ending := by
  cases ending with
  | finished | closeFailed => exact ⟨hbox h.1, h.2⟩
  | writeFailed | crashed => exact h

theorem Ended.occur {ending : Ending} (h : p.Ended c encode sink dealt ending) (capacity : Nat)
    (o : Occurrence) :
    (p.occur capacity o).Ended c encode sink dealt ending ∧
      (p.occur capacity o).writer = p.writer ∧ (p.occur capacity o).taken = p.taken ∧
      (p.occur capacity o).journal = p.journal := by
  have hlive : p.writer.outcome.isLive = false := by
    rw [h.outcome, ending.isLive_outcome]
  obtain ⟨box, hoccur, hgone, hattached⟩ := occur_of_ended hlive h.gone capacity o
  rw [hoccur]
  exact ⟨{ h with
    deals := h.deals.congr rfl rfl
    gone := hgone
    grounds := h.grounds.detached hattached }, rfl, rfl, rfl⟩

theorem Ended.occurAll {ending : Ending} (h : p.Ended c encode sink dealt ending) (capacity : Nat)
    (occurrences : List Occurrence) :
    (p.occurAll capacity occurrences).writer = p.writer ∧
      (p.occurAll capacity occurrences).taken = p.taken ∧
      (p.occurAll capacity occurrences).journal = p.journal := by
  induction occurrences generalizing p with
  | nil => exact ⟨rfl, rfl, rfl⟩
  | cons o rest ih =>
    obtain ⟨hended, hwriter, htaken, hjournal⟩ := h.occur capacity o
    obtain ⟨hwriter', htaken', hjournal'⟩ := ih hended
    exact ⟨hwriter'.trans hwriter, htaken'.trans htaken, hjournal'.trans hjournal⟩

/-! ### Runs -/

theorem Stands.occur (h : p.Stands c encode sink capacity dealt) (o : Occurrence) :
    ∃ dealt, (p.occur capacity o).Stands c encode sink capacity dealt := by
  cases h with
  | ended ending h => exact ⟨dealt, .ended ending (h.occur capacity o).1⟩
  | going h =>
    cases o with
    | enqueue e => exact ⟨dealt, .going (h.enqueue e)⟩
    | close => exact ⟨dealt, .going h.close⟩
    | transport => exact ⟨dealt, .going (h.transport _ _ _)⟩
    | step => exact h.step

theorem Stands.occurAll (h : p.Stands c encode sink capacity dealt)
    (occurrences : List Occurrence) :
    ∃ dealt, (p.occurAll capacity occurrences).Stands c encode sink capacity dealt := by
  induction occurrences generalizing p dealt with
  | nil => exact ⟨dealt, h⟩
  | cons o rest ih =>
    obtain ⟨_, hnext⟩ := h.occur o
    exact ih hnext

theorem step_ready (w : Writer) (box : Mailbox) : (w.step box).1.sink.ready = w.sink.ready := by
  unfold Writer.step Writer.writeInHand Writer.encodeTaken Writer.closeTransport Writer.finish
  unfold Sink.write Sink.close
  grind [Sink.drop]

/-- A writer whose mailbox is closed comes to its end, unless its transport stalls. -/
theorem ends_of_steps (capacity n : Nat) (hattached : p.box.attached = false)
    (hready : p.writer.sink.ready = true)
    (hn : p.writer.outcome = .running → p.writer.effort p.box < n) :
    (p.occurAll capacity (List.replicate n .step)).writer.outcome ≠ .running := by
  induction n generalizing p with
  | zero => exact fun hr => Nat.not_lt_zero _ (hn hr)
  | succ n ih =>
    refine ih ((Writer.step_attached p.writer p.box).trans hattached)
      ((step_ready p.writer p.box).trans hready) fun hr => ?_
    -- a step that does not end the writer was made by a writer that had something to do
    have hbefore : p.writer.outcome = .running := by
      by_contra hnot
      have hsame : p.writer.step p.box = (p.writer, p.box, []) := by rw [Writer.step, if_neg hnot]
      have hstep : (p.writer.step p.box).1.outcome = .running := hr
      rw [hsame] at hstep
      exact hnot hstep
    have hcan : p.writer.canGo p.box = true := by
      cases hhand : p.writer.inHand <;>
        simp [Writer.canGo, Mailbox.isClosed, hbefore, hhand, hready, hattached]
    have hless := Writer.effort_step hcan ((hr : (p.writer.step p.box).1.outcome = _).trans
      hbefore.symm)
    have heffort := hn hbefore
    exact Nat.lt_of_lt_of_le hless (Nat.le_of_lt_succ heffort)

/-! ### What is owed, and what the end depends on -/

theorem length_holding_le (w : Writer) : w.holding.length ≤ 1 := by
  cases hhand : w.inHand <;> simp [Writer.holding, hhand]

theorem Going.owed_le (h : p.Going c encode sink capacity dealt) :
    p.enqueued.length ≤ dealt.length + (capacity + 1) := by
  have hholding := length_holding_le p.writer
  have hroom := h.room
  rw [h.enqueued, h.taken, List.length_append, List.length_append]
  omega

theorem note_of_mem {entry : Entry} (h : entry ∈ dealt.flatMap (encode.note c)) :
    entry ≠ .queueClosed c ∧ ∀ why, entry ≠ .writeFailed c why := by
  obtain ⟨e, -, hentry⟩ := List.mem_flatMap.mp h
  cases he : encode e with
  | crashed words => simp [Encoder.note, he] at hentry
  | frame content | refused why =>
    simp only [Encoder.note, he, List.mem_singleton] at hentry
    simp [hentry]

/-- The mailbox has been closed and emptied, no write has failed, and the transport could be closed
when that was tried. -/
def InOrder (p : Writing) (c : ConnectionId) : Prop :=
  p.box.attached = false ∧ p.taken = p.enqueued ∧ p.writer.holding = [] ∧
    (∀ why, .writeFailed c why ∉ p.journal) ∧ .queueClosed c ∈ p.journal ∧
    p.writer.sink.closeFails = none

theorem Going.not_inOrder (h : p.Going c encode sink capacity dealt) : ¬p.InOrder c := by
  rintro ⟨-, -, -, -, hclosed, -⟩
  rw [h.deals.journal, List.append_nil] at hclosed
  exact (note_of_mem hclosed).1 rfl

theorem Ended.finished_iff {ending : Ending} (h : p.Ended c encode sink dealt ending) :
    p.writer.outcome = .finished ↔ p.InOrder c := by
  have hjournal := h.deals.journal
  have hgrounds := h.grounds
  cases ending with
  | finished =>
    obtain ⟨hattached, hall, hclose⟩ := hgrounds
    refine iff_of_true h.outcome ⟨hattached, hall.symm, by simp [Writer.holding, h.inHand], ?_,
      ?_, hclose⟩
    · intro why hfailed
      rw [hjournal] at hfailed
      rcases List.mem_append.mp hfailed with hfailed | hfailed
      · exact (note_of_mem hfailed).2 why rfl
      · simp [Ending.report] at hfailed
    · simp [hjournal, Ending.report]
  | closeFailed why =>
    refine iff_of_false (by simp [h.outcome, Ending.outcome]) ?_
    rintro ⟨-, -, -, -, -, hclose⟩
    obtain ⟨-, -, hfails⟩ := hgrounds
    rw [hclose] at hfails
    cases hfails
  | writeFailed e content why =>
    refine iff_of_false (by simp [h.outcome, Ending.outcome]) ?_
    rintro ⟨-, -, -, hfailed, -, -⟩
    exact hfailed why (by simp [hjournal, Ending.report])
  | crashed e words =>
    refine iff_of_false (by simp [h.outcome, Ending.outcome]) ?_
    rintro ⟨-, -, -, -, hclosed, -⟩
    rw [hjournal] at hclosed
    simp only [Ending.report, List.append_nil] at hclosed
    exact (note_of_mem hclosed).1 rfl

/-- Whatever happens to a writer, and whenever: all that it has taken is, in order, what it has
written or skipped and at most one event more, and at most one event beyond the capacity of its
mailbox is owed while it goes on. An event that cannot be encoded is skipped, and the writer goes on
as before. It ends in order just if the mailbox is closed and emptied, no write has failed and the
transport lets itself be closed; only a failure of the transport or a breakdown of the encoder ends
it otherwise. Nothing comes after the end, and a closed mailbox brings it about. -/
theorem every_event_accounted (c : ConnectionId) (encode : Encoder) (sink : Sink) (capacity : Nat)
    (occurrences : List Occurrence) :
    let p := (new c encode sink).occurAll capacity occurrences
    (∃ dealt, p.Stands c encode sink capacity dealt ∧
      (p.writer.outcome = .running → p.enqueued.length ≤ dealt.length + (capacity + 1))) ∧
    (∀ e rest why, p.writer.outcome = .running → p.writer.inHand = none →
      p.box.waiting = e :: rest → encode e = .refused why →
        p.occur capacity .step =
          { p with
            box := { p.box with waiting := rest }
            taken := p.taken ++ [e]
            journal := p.journal ++ [.skipped e c why] }) ∧
    (p.writer.outcome = .finished ↔ p.InOrder c) ∧
    (p.writer.outcome ≠ .running → ∀ later,
      (p.occurAll capacity later).writer = p.writer ∧ (p.occurAll capacity later).taken = p.taken ∧
        (p.occurAll capacity later).journal = p.journal) ∧
    (p.box.attached = false → p.writer.sink.ready = true → ∀ n, 2 * p.box.waiting.length + 2 ≤ n →
      (p.occurAll capacity (List.replicate n .step)).writer.outcome ≠ .running) := by
  intro p
  obtain ⟨dealt, hstands⟩ :=
    Stands.occurAll (.going (going_new c encode sink capacity)) occurrences
  have hend : p.box.attached = false → p.writer.sink.ready = true →
      ∀ n, 2 * p.box.waiting.length + 2 ≤ n →
        (p.occurAll capacity (List.replicate n .step)).writer.outcome ≠ .running := by
    intro hattached hready n hn
    refine ends_of_steps capacity n hattached hready fun _ => Nat.lt_of_lt_of_le ?_ hn
    by_cases hhand : p.writer.inHand.isSome <;> simp [Writer.effort, hhand]
  cases hstands with
  | going h =>
    have hr : p.writer.outcome = .running := h.outcome
    refine ⟨⟨dealt, .going h, fun _ => h.owed_le⟩, ?_, ?_, fun hnot => absurd hr hnot, hend⟩
    · exact fun e rest why _ hhand hw he => h.occur_of_refused hhand hw he
    · exact iff_of_false (by simp [hr]) h.not_inOrder
  | ended ending h =>
    have hnot : p.writer.outcome ≠ .running := by
      intro hr
      have hending : ending.outcome = .running := h.outcome.symm.trans hr
      have hlive := ending.isLive_outcome
      simp [hending, Outcome.isLive] at hlive
    exact ⟨⟨dealt, .ended ending h, fun hr => absurd hr hnot⟩, fun _ _ _ hr => absurd hr hnot,
      h.finished_iff, fun _ => h.occurAll capacity, hend⟩

/-- The second event cannot be encoded, and the transport breaks before the third. -/
theorem every_event_accounted_broken :
    let good : Event := ⟨"notify", "good", by decide, by decide, by decide⟩
    let bad : Event := ⟨"notify", "bad", by decide, by decide, by decide⟩
    let late : Event := ⟨"notify", "late", by decide, by decide, by decide⟩
    let encode : Encoder := fun e =>
      if e = bad then .refused (.encode "bad" none) else .frame e.payload
    let occurrences : List Occurrence :=
      [.transport true (some (1, "broken")) none, .enqueue good, .enqueue bad, .enqueue late,
        .close, .step, .step, .step, .step, .step]
    ¬((new ⟨0⟩ encode .plain).occurAll 4 occurrences).InOrder ⟨0⟩ ∧
      ∀ later, (((new ⟨0⟩ encode .plain).occurAll 4 occurrences).occurAll 4 later).journal =
        [.wrote good ⟨0⟩, .skipped bad ⟨0⟩ (.encode "bad" none), .writeFailed ⟨0⟩ "broken"] := by
  intro good bad late encode occurrences
  obtain ⟨-, -, hfinished, hfinal, -⟩ := every_event_accounted ⟨0⟩ encode .plain 4 occurrences
  have houtcome : ((new ⟨0⟩ encode .plain).occurAll 4 occurrences).writer.outcome =
      .stopped (.transport (some "broken")) := by decide +kernel
  have hjournal : ((new ⟨0⟩ encode .plain).occurAll 4 occurrences).journal =
      [.wrote good ⟨0⟩, .skipped bad ⟨0⟩ (.encode "bad" none), .writeFailed ⟨0⟩ "broken"] := by
    decide +kernel
  refine ⟨fun h => ?_, fun later => ?_⟩
  · have hdone := hfinished.mpr h
    rw [houtcome] at hdone
    cases hdone
  · rw [(hfinal (by rw [houtcome]; simp) later).2.2, hjournal]

end Writing
end LiveUpdate
