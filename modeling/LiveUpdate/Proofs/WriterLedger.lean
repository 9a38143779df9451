import LiveUpdate.Proofs.PairRules
import LiveUpdate.Proofs.Tending

/-! What a writer owes to the transport, for any encoder and any transport. As long as it goes on,
every event that was enqueued for it has been dealt with, is in hand or waits; if it ends in order,
all of them have been written that can be encoded. -/
namespace LiveUpdate

/-- The frames of the events that can be encoded, in order. -/
def Encoder.frames (encode : Encoder) (events : List Event) : List Outgoing :=
  events.filterMap fun e => match encode e with
    | .frame content => some (.text content)
    | _ => none

@[simp] theorem Encoder.frames_append (encode : Encoder) (first rest : List Event) :
    encode.frames (first ++ rest) = encode.frames first ++ encode.frames rest :=
  List.filterMap_append

theorem Encoder.frames_of_frame {encode : Encoder} {e : Event} {content : String}
    (h : encode e = .frame content) : encode.frames [e] = [.text content] := by
  simp [frames, h]

theorem Encoder.frames_of_refused {encode : Encoder} {e : Event} {why : Fault}
    (h : encode e = .refused why) : encode.frames [e] = [] := by
  simp [frames, h]

namespace Sink

/-- A frame that is written is all that a write changes. -/
theorem write_ok {sink sink' : Sink} {frame : Outgoing} (h : sink.write frame = .ok sink') :
    sink' = { sink with sent := sink.sent ++ [frame] } := by
  unfold write at h
  split at h
  · split at h
    · cases h
    · exact (Except.ok.inj h).symm
  · exact (Except.ok.inj h).symm

theorem close_ok {sink sink' : Sink} (h : sink.close = .ok sink') :
    sink'.sent = sink.sent ++ sink.farewell.toList ∧ sink'.closed = true := by
  unfold close at h
  split at h
  · cases h
  · cases h
    exact ⟨rfl, rfl⟩

end Sink

namespace Writer

/-- The event that a writer has taken and not yet written. -/
def holding (w : Writer) : List Event := w.inHand.toList.map Prod.fst

/-- What has become of the events that were enqueued for a writer, which began with this transport:
there is nothing that it has lost without saying so. -/
structure Accounts (w : Writer) (box : Mailbox) (encode : Encoder) (sink : Sink)
    (events : List Event) (journal : List Entry) : Prop where
  encodes : w.encode = encode
  inHand : ∀ e content, w.inHand = some (e, content) → encode e = .frame content
  live : w.outcome.isLive = true → box.intake = .listening ∧ w.sink.farewell = sink.farewell ∧
    ∃ dealt, dealt ++ w.holding ++ box.waiting = events ∧
      w.sink.sent = sink.sent ++ encode.frames dealt
  ended : w.outcome.isLive = false → box.intake = .gone
  finished : w.outcome = .finished →
    w.sink.sent = sink.sent ++ encode.frames events ++ sink.farewell.toList ∧
      w.sink.closed = true
  stopped : ∀ why, w.outcome = .stopped why →
    (∃ why, .writeFailed w.connection why ∈ journal) ∨
      w.sink.sent = sink.sent ++ encode.frames events
  uncut : w.outcome ≠ .cancelled

variable {w : Writer} {box : Mailbox} {encode : Encoder} {sink : Sink} {events : List Event}
  {journal : List Entry}

theorem accounts_new (c : ConnectionId) (encode : Encoder) (sink : Sink) {box : Mailbox}
    (hbox : box.intake = .listening) (journal : List Entry) :
    (Writer.new c encode sink .idle).Accounts box encode sink box.waiting journal where
  encodes := rfl
  inHand e content h := by cases h
  live _ := ⟨hbox, rfl, [], rfl, (List.append_nil _).symm⟩
  ended h := by cases h
  finished h := by cases h
  stopped why h := by cases h
  uncut := by simp [new]

theorem Accounts.mono (h : w.Accounts box encode sink events journal) {journal' : List Entry}
    (hj : ∀ entry ∈ journal, entry ∈ journal') :
    w.Accounts box encode sink events journal' :=
  { h with
    stopped := fun why hw => (h.stopped why hw).imp_left (Exists.imp fun _ => hj _) }

/-- The accounts of a writer that goes on. -/
theorem accounts_of_live (dealt : List Event) (he : w.encode = encode)
    (hl : w.outcome.isLive = true)
    (hin : ∀ e content, w.inHand = some (e, content) → encode e = .frame content)
    (hbox : box.intake = .listening) (hfarewell : w.sink.farewell = sink.farewell)
    (hevents : dealt ++ w.holding ++ box.waiting = events)
    (hsent : w.sink.sent = sink.sent ++ encode.frames dealt) :
    w.Accounts box encode sink events journal := by
  have hnot {o : Outcome} (ho : o.isLive = false) : w.outcome ≠ o := by
    rintro rfl
    rw [ho] at hl
    cases hl
  exact ⟨he, hin, fun _ => ⟨hbox, hfarewell, dealt, hevents, hsent⟩, fun hn => absurd rfl (hnot hn),
    fun hf => absurd hf (hnot rfl), fun why hs => absurd hs (hnot rfl), hnot rfl⟩

/-- An event is enqueued while the writer goes on; afterwards none is. -/
theorem Accounts.enqueue (h : w.Accounts box encode sink events journal) {box' : Mailbox}
    {more : List Event} (hintake : box'.intake = box.intake)
    (hwaiting : box'.waiting = box.waiting ++ more) (hgone : box.intake = .gone → more = []) :
    w.Accounts box' encode sink (events ++ more) journal := by
  cases hl : w.outcome.isLive with
  | true =>
    obtain ⟨hlistening, hfarewell, dealt, hevents, hsent⟩ := h.live hl
    refine accounts_of_live dealt h.encodes hl h.inHand (hintake.trans hlistening) hfarewell ?_
      hsent
    rw [hwaiting, ← hevents, ← List.append_assoc]
  | false =>
    have hbox := h.ended hl
    rw [hgone hbox, List.append_nil]
    refine ⟨h.encodes, h.inHand, fun hn => ?_, fun _ => hintake.trans hbox, h.finished, h.stopped,
      h.uncut⟩
    rw [hl] at hn
    cases hn

/-- What leaves the outcome alone, and of the transport only whether it is ready. -/
theorem Accounts.setReady (h : w.Accounts box encode sink events journal) (ready : Bool) :
    ({ w with sink := { w.sink with ready } } : Writer).Accounts box encode sink events
      journal :=
  ⟨h.encodes, h.inHand, h.live, h.ended, h.finished, h.stopped, h.uncut⟩

theorem Accounts.start (h : w.Accounts box encode sink events journal) :
    ({ w with outcome := w.outcome.start } : Writer).Accounts box encode sink events journal := by
  cases ho : w.outcome with
  | idle =>
    obtain ⟨hlistening, hfarewell, dealt, hevents, hsent⟩ := h.live (by rw [ho]; rfl)
    exact accounts_of_live dealt h.encodes rfl h.inHand hlistening hfarewell hevents hsent
  | _ =>
    have hsame : ({ w with outcome := w.outcome.start } : Writer) = w := by
      cases w
      cases ho
      rfl
    rw [ho] at hsame
    rw [hsame]
    exact h

/-! ### A step -/

/-- A writer that has ended has let go of its mailbox. -/
theorem accounts_finish {w₀ : Writer} {sink₀ : Sink} (outcome : Outcome)
    (he : w₀.encode = encode) (hl : outcome.isLive = false) (hc : outcome ≠ .cancelled)
    (hfinished : outcome = .finished →
      sink₀.sent = sink.sent ++ encode.frames events ++ sink.farewell.toList ∧
        sink₀.closed = true)
    (hstopped : ∀ why, outcome = .stopped why →
      (∃ why, .writeFailed w₀.connection why ∈ journal) ∨
        sink₀.sent = sink.sent ++ encode.frames events) (box : Mailbox) :
    (w₀.finish sink₀ outcome).Accounts box.abandon encode sink events journal where
  encodes := he
  inHand e content h := by cases h
  live h := by
    have hlive : outcome.isLive = true := h
    rw [hl] at hlive
    cases hlive
  ended _ := rfl
  finished := hfinished
  stopped := hstopped
  uncut := hc

variable {e : Event} {content : String} {rest : List Event}

theorem Accounts.writeInHand (h : w.Accounts box encode sink events journal)
    (hr : w.outcome = .running) (hhand : w.inHand = some (e, content)) :
    (w.writeInHand box e content).1.Accounts (w.writeInHand box e content).2.1 encode sink events
      (journal ++ (w.writeInHand box e content).2.2) := by
  have hl : w.outcome.isLive = true := by rw [hr]; rfl
  obtain ⟨hlistening, hfarewell, dealt, hevents, hsent⟩ := h.live hl
  unfold Writer.writeInHand
  cases hwrite : w.sink.write (.text content) with
  | ok sink' =>
    obtain rfl := Sink.write_ok hwrite
    have hdealt : dealt ++ [e] ++ box.waiting = events := by
      rw [← hevents, holding, hhand]
      rfl
    refine accounts_of_live (dealt ++ [e]) h.encodes hl (by simp) hlistening hfarewell ?_ ?_
    · rw [← hdealt]
      simp [holding]
    · rw [Encoder.frames_append, Encoder.frames_of_frame (h.inHand e content hhand),
        ← List.append_assoc, ← hsent]
  | error why =>
    refine accounts_finish (.stopped (.transport (some why))) h.encodes rfl (by simp) (by simp)
      (fun _ _ => Or.inl ⟨why, ?_⟩) box
    exact List.mem_append_right _ List.mem_cons_self

theorem Accounts.encodeTaken (h : w.Accounts box encode sink events journal)
    (hr : w.outcome = .running) (hhand : w.inHand = none) (hw : box.waiting = e :: rest) :
    (w.encodeTaken { box with waiting := rest } e).1.Accounts
      (w.encodeTaken { box with waiting := rest } e).2.1 encode sink events
      (journal ++ (w.encodeTaken { box with waiting := rest } e).2.2) := by
  have hl : w.outcome.isLive = true := by rw [hr]; rfl
  obtain ⟨hlistening, hfarewell, dealt, hevents, hsent⟩ := h.live hl
  have hall : dealt ++ [e] ++ rest = events := by
    rw [← hevents, holding, hhand, hw]
    simp
  unfold Writer.encodeTaken
  cases he : w.encode e with
  | frame content =>
    have he' : encode e = .frame content := h.encodes ▸ he
    refine accounts_of_live dealt h.encodes hl (fun e' content' hin => ?_) hlistening hfarewell hall
      hsent
    cases hin
    exact he'
  | refused why =>
    have he' : encode e = .refused why := h.encodes ▸ he
    refine accounts_of_live (dealt ++ [e]) h.encodes hl h.inHand hlistening hfarewell ?_ ?_
    · rw [← hall, holding, hhand]
      simp
    · rw [Encoder.frames_append, Encoder.frames_of_refused he', List.append_nil, hsent]
  | crashed words =>
    exact accounts_finish (.panicked words) h.encodes rfl (by simp) (by simp) (by simp) _

theorem Accounts.closeTransport (h : w.Accounts box encode sink events journal)
    (hr : w.outcome = .running) (hhand : w.inHand = none) (hw : box.waiting = []) :
    (w.closeTransport box).1.Accounts (w.closeTransport box).2.1 encode sink events
      (journal ++ (w.closeTransport box).2.2) := by
  obtain ⟨-, hfarewell, dealt, hevents, hsent⟩ := h.live (by rw [hr]; rfl)
  have hall : dealt = events := by
    rw [← hevents, holding, hhand, hw]
    simp
  subst hall
  unfold Writer.closeTransport
  cases hclose : w.sink.close with
  | ok sink' =>
    obtain ⟨hsent', hclosed⟩ := Sink.close_ok hclose
    refine accounts_finish .finished h.encodes rfl (by simp) (fun _ => ⟨?_, hclosed⟩) (by simp) box
    rw [hsent', hsent, hfarewell]
  | error why =>
    exact accounts_finish (.stopped (.transport (some why))) h.encodes rfl (by simp) (by simp)
      (fun _ _ => Or.inr hsent) box

/-- A step of the writer keeps its accounts, whatever the encoder and the transport make of it. -/
theorem Accounts.step (h : w.Accounts box encode sink events journal) :
    (w.step box).1.Accounts (w.step box).2.1 encode sink events
      (journal ++ (w.step box).2.2) := by
  have hidle : w.Accounts box encode sink events (journal ++ []) := by
    rw [List.append_nil]
    exact h
  unfold Writer.step
  by_cases hr : w.outcome = .running
  · rw [if_pos hr]
    cases hhand : w.inHand with
    | some hand =>
      obtain ⟨e, content⟩ := hand
      simp only []
      split
      · exact h.writeInHand hr hhand
      · exact hidle
    | none =>
      cases hw : box.waiting with
      | cons e rest =>
        simp only [Mailbox.take, hw]
        exact h.encodeTaken hr hhand hw
      | nil =>
        simp only [Mailbox.take, hw]
        split
        · exact h.closeTransport hr hhand hw
        · exact hidle
  · rw [if_neg hr]
    exact hidle

/-- A writer that has ended does nothing more. -/
theorem step_of_ended (hl : w.outcome.isLive = false) (box : Mailbox) :
    w.step box = (w, box, []) := by
  have hr : w.outcome ≠ .running := by
    intro hr
    rw [hr] at hl
    cases hl
  rw [Writer.step, if_neg hr]

end Writer
end LiveUpdate
