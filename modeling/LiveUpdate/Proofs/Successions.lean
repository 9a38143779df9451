import LiveUpdate.Proofs.Happenings
import LiveUpdate.Proofs.WriterLedger

/-! Writers that carry on what others have begun. Whatever a task does, and whatever is done to it, its
writer only goes on: it takes events that wait in its mailbox and writes what it has taken. What comes
back from a client is no text of an event. -/
namespace LiveUpdate

/-! ### Writers -/

def Outgoing.text? : Outgoing → Option String
  | text content => some content
  | _ => none

/-- The texts that went out on a transport, or will when it is closed. -/
def Sink.texts (sink : Sink) : List String :=
  (sink.sent ++ sink.farewell.toList).filterMap Outgoing.text?

theorem Sink.mem_texts {sink : Sink} {text : String} : text ∈ sink.texts ↔
    .text text ∈ sink.sent ∨ sink.farewell = some (.text text) := by
  have htext (o : Outgoing) : o.text? = some text ↔ o = .text text := by
    cases o <;> simp [Outgoing.text?]
  simp [texts, List.filterMap_append, htext]

/-- A writer carries on what another has begun: whatever it has in hand beyond that is one of these
events, encoded, and whatever it has written beyond that was in hand. It breaks down only with its
encoder, at one of these events. -/
structure Writer.Succeeds (w w' : Writer) (events : List Event) : Prop where
  connection : w'.connection = w.connection
  encode : w'.encode = w.encode
  inHand : ∀ e content, w'.inHand = some (e, content) →
    w.inHand = some (e, content) ∨ e ∈ events ∧ w.encode e = .frame content
  texts : ∀ text ∈ w'.sink.texts, text ∈ w.sink.texts ∨ ∃ e, w.inHand = some (e, text)
  panicked : ∀ words, w'.outcome = .panicked words →
    w.outcome = .panicked words ∨ ∃ e ∈ events, w.encode e = .crashed words

namespace Writer

variable {w : Writer} {events : List Event}

/-- Nothing is taken and nothing is written. -/
theorem succeeds_of_texts {w' : Writer} (hc : w'.connection = w.connection)
    (he : w'.encode = w.encode) (hhand : w'.inHand = none ∨ w'.inHand = w.inHand)
    (htexts : ∀ text ∈ w'.sink.texts, text ∈ w.sink.texts)
    (hcalm : ∀ words, w'.outcome = .panicked words → w.outcome = .panicked words) :
    w.Succeeds w' events where
  connection := hc
  encode := he
  inHand e content h := by
    rcases hhand with hnone | hsame
    · rw [hnone] at h
      cases h
    · exact Or.inl (hsame ▸ h)
  texts text h := Or.inl (htexts text h)
  panicked words h := Or.inl (hcalm words h)

theorem succeeds_refl (w : Writer) (events : List Event) : w.Succeeds w events :=
  succeeds_of_texts rfl rfl (Or.inr rfl) (fun _ h => h) fun _ h => h

theorem succeeds_finish (w : Writer) {sink : Sink} {outcome : Outcome}
    (hcalm : ∀ words, outcome ≠ .panicked words)
    (h : ∀ text ∈ sink.texts, text ∈ w.sink.texts) : w.Succeeds (w.finish sink outcome) events :=
  succeeds_of_texts rfl rfl (Or.inl rfl) h fun words hwords => absurd hwords (hcalm words)

theorem succeeds_cancel (w : Writer) : w.Succeeds w.cancel events := by
  unfold cancel
  split
  · exact w.succeeds_finish (by simp) fun _ h => h
  · exact w.succeeds_refl events

/-- A step takes an event that waits and encodes it, or writes what is in hand. -/
theorem succeeds_step (w : Writer) (box : Mailbox) : w.Succeeds (w.step box).1 box.waiting := by
  unfold step
  split
  · split
    · rename_i e content hhand
      split
      · unfold writeInHand
        cases hwrite : w.sink.write (.text content) with
        | error why => exact w.succeeds_finish (by simp) fun _ h => h
        | ok sink =>
          obtain rfl := Sink.write_ok hwrite
          refine ⟨rfl, rfl, fun _ _ h => (by cases h), fun text htext => ?_, fun _ h => Or.inl h⟩
          simp only [Sink.mem_texts, List.mem_append, List.mem_singleton] at htext ⊢
          rcases htext with (hsent | hnew) | hfarewell
          · exact Or.inl (Or.inl hsent)
          · cases hnew
            exact Or.inr ⟨e, hhand⟩
          · exact Or.inl (Or.inr hfarewell)
      · exact w.succeeds_refl _
    · cases hw : box.waiting with
      | cons e rest =>
        simp only [Mailbox.take, hw, encodeTaken]
        cases hencode : w.encode e with
        | frame content =>
          refine ⟨rfl, rfl, fun e' content' h => ?_, fun _ h => Or.inl h, fun _ h => Or.inl h⟩
          cases h
          exact Or.inr ⟨List.mem_cons_self, hencode⟩
        | refused why => exact w.succeeds_refl _
        | crashed words =>
          refine ⟨rfl, rfl, fun _ _ h => (by cases h), fun _ h => Or.inl h, fun words' h => ?_⟩
          cases h
          exact Or.inr ⟨e, List.mem_cons_self, hencode⟩
      | nil =>
        simp only [Mailbox.take, hw]
        split
        · unfold closeTransport
          cases hclose : w.sink.close with
          | error why => exact w.succeeds_finish (by simp) fun _ h => h
          | ok sink =>
            refine w.succeeds_finish (by simp) fun text htext => ?_
            unfold Sink.close at hclose
            split at hclose <;> cases hclose
            simp only [Sink.mem_texts, List.mem_append, Option.mem_toList, reduceCtorEq,
              or_false] at htext ⊢
            exact htext
        · exact w.succeeds_refl _
  · exact w.succeeds_refl _

end Writer

/-- The writer of a task, if it has one, carries on that of another. -/
def Task.Succeeds (t t' : Task) : Prop :=
  ∀ w', t'.writer? = some w' → ∃ w, t.writer? = some w ∧ w.Succeeds w' []

namespace Task

theorem succeeds_setReader (t : Task) (r : Reader) : t.Succeeds (t.setReader r) := by
  cases t with
  | reading r₀ => exact fun w hw => by cases hw
  | _ => exact fun w hw => ⟨w, hw, w.succeeds_refl []⟩

theorem succeeds_of_writer {p : Pair} {p' : Pair} (h : p.writer.Succeeds p'.writer []) :
    (paired p).Succeeds (paired p') := by
  rintro w' hw'
  cases hw'
  exact ⟨p.writer, rfl, h⟩

theorem succeeds_start (p : Pair) : (paired p).Succeeds (paired p.start) := by
  refine succeeds_of_writer ?_
  unfold Pair.start
  split
  · refine Writer.succeeds_of_texts rfl rfl (Or.inr rfl) (fun _ h => h) fun words h => ?_
    revert h
    cases p.writer.outcome <;> simp [Outcome.start]
  · exact p.writer.succeeds_refl []

theorem succeeds_observeWriter (p : Pair) : (paired p).Succeeds (paired p.observeWriter.1) := by
  refine succeeds_of_writer ?_
  unfold Pair.observeWriter
  split <;> exact p.writer.succeeds_refl []

theorem succeeds_observeReader (p : Pair) : (paired p).Succeeds (paired p.observeReader.1) := by
  refine succeeds_of_writer ?_
  unfold Pair.observeReader
  split <;> exact p.writer.succeeds_refl []

theorem succeeds_abort (t : Task) : t.Succeeds t.abort.1 := by
  cases t with
  | writing w =>
    rintro w' hw'
    cases hw'
    exact ⟨w, rfl, w.succeeds_cancel⟩
  | reading r => exact fun w hw => by cases hw
  | paired p =>
    refine @succeeds_of_writer p p.abort.1 ?_
    unfold Pair.abort
    split
    · exact p.writer.succeeds_cancel
    · exact p.writer.succeeds_refl []
    · exact p.writer.succeeds_refl []
    · exact p.writer.succeeds_refl []
    · exact p.writer.succeeds_refl []

theorem succeeds_destroy (t : Task) : t.Succeeds t.destroy.1 := by
  cases t with
  | writing w =>
    rintro w' hw'
    cases hw'
    exact ⟨w, rfl, w.succeeds_cancel⟩
  | reading r => exact fun w hw => by cases hw
  | paired p => exact succeeds_of_writer p.writer.succeeds_cancel

theorem destroy_departs (t : Task) : ∀ command ∈ t.destroy.2, command.departs = true := by
  cases t with
  | writing w => exact List.forall_mem_nil _
  | reading r => exact List.forall_mem_nil _
  | paired p =>
    simp only [destroy, Pair.destroy]
    split <;> simp [Command.departs]

/-- What happens to a transport adds no text. -/
theorem succeeds_mapSink (t : Task) {f : Sink → Sink}
    (hf : ∀ sink, ∀ text ∈ (f sink).texts, text ∈ sink.texts) : t.Succeeds (t.mapSink f) := by
  cases t with
  | writing w =>
    rintro w' hw'
    cases hw'
    exact ⟨w, rfl, Writer.succeeds_of_texts rfl rfl (Or.inr rfl) (hf w.sink) fun _ h => h⟩
  | reading r => exact fun w hw => by cases hw
  | paired p =>
    exact succeeds_of_writer
      (Writer.succeeds_of_texts rfl rfl (Or.inr rfl) (hf p.writer.sink) fun _ h => h)

end Task

namespace Session

theorem replaceTask_eq {s : Session} {i : Nat} {t : Task} (hi : s.tasks.get? i = some t)
    (cut : Task → Task × List Command) :
    ∃ hub, s.replaceTask i cut = s.putTask i (cut t).1 hub s.links := by
  simp only [replaceTask, hi, releaseMailbox]
  split <;> exact ⟨_, rfl⟩

end Session

/-! ### Links -/

namespace WebSocket

/-- What answers the arrival of bytes is no text. -/
structure Arrival.Wordless (a : Arrival) : Prop where
  replies : ∀ o ∈ a.replies, o.text? = none
  farewell : ∀ ending o, a.ending = some ending → ending.farewell = some o → o.text? = none

namespace Link

theorem wordless_of_silent {a : Arrival} (hreplies : a.replies = []) (hending : a.ending = none) :
    a.Wordless := by
  refine ⟨fun o ho => ?_, fun ending o he => ?_⟩
  · rw [hreplies] at ho
    cases ho
  · rw [hending] at he
    cases he

theorem acceptData_silent (link : Link) (f : Frame) :
    (link.acceptData f).replies = [] ∧ (link.acceptData f).ending = none := by
  have hcollect (kind : Opcode) (collected : List UInt8) (final : Bool) :
      (link.collect kind collected final).replies = [] ∧
        (link.collect kind collected final).ending = none := by
    unfold collect
    grind [fail, more]
  have htext (payload : List UInt8) : (link.acceptText payload).replies = [] ∧
      (link.acceptText payload).ending = none := by
    unfold acceptText
    split <;> exact ⟨rfl, rfl⟩
  unfold acceptData
  split
  · exact ⟨rfl, rfl⟩
  · exact hcollect _ _ _
  · exact ⟨rfl, rfl⟩
  · split
    · split
      · exact ⟨rfl, rfl⟩
      · exact htext _
    · exact hcollect _ _ _

theorem wordless_acceptClose (link : Link) (payload : List UInt8) :
    (link.acceptClose payload).Wordless := by
  have hclose (code : Option Nat) : Arrival.Wordless
      ⟨{ link with finished := true }, [.close], [], some (.closing (.close code))⟩ := by
    refine ⟨List.forall_mem_nil _, fun ending o he ho => ?_⟩
    cases he
    cases ho
    rfl
  unfold acceptClose
  split
  · exact hclose none
  · exact wordless_of_silent rfl rfl
  · split
    · exact wordless_of_silent rfl rfl
    · exact hclose _

theorem wordless_accept (link : Link) (f : Frame) : (link.accept f).Wordless := by
  unfold accept
  split
  · exact wordless_of_silent rfl rfl
  · split
    · unfold acceptControl
      split
      · exact wordless_of_silent rfl rfl
      · split
        · exact wordless_of_silent rfl rfl
        · split
          · exact wordless_acceptClose _ _
          · exact ⟨by simp [more, Outgoing.text?], fun ending o he => by cases he⟩
          · exact wordless_of_silent rfl rfl
    · obtain ⟨hreplies, hending⟩ := link.acceptData_silent f
      exact wordless_of_silent hreplies hending

theorem wordless_readFrames (n : Nat) (link : Link) : (readFrames n link).Wordless := by
  induction n generalizing link with
  | zero => exact wordless_of_silent rfl rfl
  | succ n ih =>
    rw [readFrames]
    split
    · exact wordless_of_silent rfl rfl
    · split
      · exact wordless_of_silent rfl rfl
      · exact wordless_of_silent rfl rfl
      · rename_i f rest _
        have hfirst := wordless_accept { link with unread := rest } f
        have hothers := ih (accept { link with unread := rest } f).link
        refine ⟨List.forall_mem_append.mpr ⟨hfirst.replies, hothers.replies⟩,
          fun ending o he ho => ?_⟩
        rcases Option.or_eq_some_iff.mp he with he | ⟨-, he⟩
        · exact hfirst.farewell ending o he ho
        · exact hothers.farewell ending o he ho

theorem wordless_lose (link : Link) : link.lose.Wordless := by
  unfold lose
  split
  · exact wordless_of_silent rfl rfl
  · refine ⟨List.forall_mem_nil _, fun ending o he ho => ?_⟩
    cases he
    cases ho

end Link
end WebSocket

end LiveUpdate
