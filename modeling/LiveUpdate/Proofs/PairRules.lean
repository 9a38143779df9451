import LiveUpdate.Pump.Pair

/-! What holds of the two pumps of a WebSocket session, and what each of their steps keeps: unless
it fails, the writer ends only after the inbound side has come to its end. -/
namespace LiveUpdate

namespace Outcome

/-- Whether a pump has ended before its time. -/
def hasFailed : Outcome → Bool
  | stopped _ | panicked _ => true
  | _ => false

theorem not_hasFailed_of_isLive {o : Outcome} (h : o.isLive = true) : o.hasFailed = false := by
  cases o <;> first | rfl | cases h

theorem hasFailed_start (o : Outcome) : o.start.hasFailed = o.hasFailed := by
  cases o <;> rfl

end Outcome

namespace Reader

/-- Whether the inbound side has seen no close frame, no error and no end. -/
def hears (r : Reader) : Bool :=
  !r.ended && r.arrived.all (!·.isTerminal) && (r.outcome.isLive || r.outcome = .cancelled)

/-- An inbound side that has come to its end stays there. -/
theorem deaf_receive {r : Reader} (frame : Inbound) (h : r.hears = false) :
    (r.receive frame).hears = false := by
  unfold receive
  split
  · rw [Bool.eq_false_iff] at h ⊢
    intro hn
    apply h
    simp only [hears, List.all_append, Bool.and_eq_true] at hn ⊢
    exact ⟨⟨hn.1.1, hn.1.2.1⟩, hn.2⟩
  · exact h

@[simp] theorem receive_connection (r : Reader) (frame : Inbound) :
    (r.receive frame).connection = r.connection := by
  unfold receive
  split <;> rfl

@[simp] theorem receive_outcome (r : Reader) (frame : Inbound) :
    (r.receive frame).outcome = r.outcome := by
  unfold receive
  split <;> rfl

theorem receiveAll_frame (r : Reader) (frames : List Inbound) :
    (frames.foldl receive r).connection = r.connection ∧
      (frames.foldl receive r).outcome = r.outcome := by
  induction frames generalizing r with
  | nil => exact ⟨rfl, rfl⟩
  | cons frame rest ih =>
    obtain ⟨hc, ho⟩ := ih (r.receive frame)
    exact ⟨hc.trans (r.receive_connection frame), ho.trans (r.receive_outcome frame)⟩

theorem deaf_receiveAll {r : Reader} (frames : List Inbound) (h : r.hears = false) :
    (frames.foldl receive r).hears = false := by
  induction frames generalizing r with
  | nil => exact h
  | cons frame rest ih => exact ih (deaf_receive frame h)

theorem hears_endInput (r : Reader) : r.endInput.hears = false := rfl

/-- A step of the reader: it goes on, or it has met the end and says so. -/
theorem step_cases (r : Reader) :
    r.step.1.connection = r.connection ∧ r.step.1.hears = r.hears ∧
      (r.step.2.1 = [] ∧ r.step.1.outcome = r.outcome ∨
        r.outcome = .running ∧ r.step.2.1 = [.unregister r.connection] ∧
          (r.step.1.outcome = .finished ∨ ∃ why, r.step.1.outcome = .stopped why)) := by
  unfold step
  by_cases hr : r.outcome = .running
  · rw [if_pos hr]
    cases ha : r.arrived with
    | nil =>
      by_cases he : r.ended = true
      · simp [he, hears, hr]
      · simp [he]
    | cons frame rest =>
      cases frame with
      | close => simp [hears, hr, ha, Inbound.isTerminal, Outcome.isLive]
      | failure why => simp [hears, hr, ha, Inbound.isTerminal, Outcome.isLive]
      | _ => simp [hears, ha, Inbound.isTerminal]
  · rw [if_neg hr]
    exact ⟨rfl, rfl, Or.inl ⟨rfl, rfl⟩⟩

theorem hears_cancel (r : Reader) : r.cancel.hears = r.hears := by
  unfold cancel
  split
  · rename_i hlive
    simp [hears, hlive]
  · rfl

/-- A running reader that has nothing to do hears. -/
theorem hears_of_step_eq {r : Reader} (hr : r.outcome = .running) (h : r.step.1 = r) :
    r.hears = true := by
  unfold step at h
  rw [if_pos hr] at h
  cases ha : r.arrived with
  | nil =>
    by_cases he : r.ended = true
    · simp only [ha, he, if_true] at h
      have hout := congrArg Reader.outcome h
      rw [hr] at hout
      cases hout
    · simp [hears, ha, he, hr, Outcome.isLive]
  | cons frame rest =>
    rw [ha] at h
    have harrived := congrArg Reader.arrived h
    cases frame <;> simp [ha] at harrived

end Reader

namespace Writer

/-- Whatever its encoder and its transport do, a writer keeps to its connection. -/
theorem step_connection (w : Writer) (box : Mailbox) :
    (w.step box).1.connection = w.connection := by
  unfold step writeInHand encodeTaken closeTransport finish
  grind

theorem step_attached (w : Writer) (box : Mailbox) :
    (w.step box).2.1.attached = box.attached := by
  unfold step writeInHand encodeTaken closeTransport
  grind [Mailbox.abandon, Mailbox.take]

/-- A step of a writer that sends JSON: it goes on, or it fails on a broken transport, or it ends
with its mailbox. -/
theorem step_cases (w : Writer) (box : Mailbox) (hj : w.encode = .json) :
    (w.step box).1.connection = w.connection ∧ (w.step box).1.encode = .json ∧
      (w.step box).1.sink.breaksAfter = w.sink.breaksAfter ∧
      (w.step box).2.1.attached = box.attached ∧
      ((w.step box).1.outcome = w.outcome ∧ (w.step box).2.1.intake = box.intake ∨
        w.outcome = .running ∧ (w.step box).1.outcome.isLive = false ∧
          (w.step box).1.outcome ≠ .cancelled ∧
          (w.sink.breaksAfter.isSome = true ∧ (w.step box).1.outcome.hasFailed = true ∨
            box.isClosed = true)) := by
  unfold step
  by_cases hr : w.outcome = .running
  · rw [if_pos hr]
    cases hh : w.inHand with
    | some hand =>
      obtain ⟨e, frame⟩ := hand
      by_cases hready : w.sink.ready = true
      · simp only [hready, if_true, writeInHand, Sink.write]
        cases hb : w.sink.breaksAfter with
        | none => simp [hj]
        | some limit =>
          obtain ⟨limit, why⟩ := limit
          by_cases hl : limit ≤ w.sink.sent.length
          · simp [hl, finish, hj, hr, hb, Sink.drop, Outcome.isLive, Outcome.hasFailed,
              Mailbox.abandon]
          · simp [hl, hj]
      · simp [hready, hj]
    | none =>
      cases ht : box.waiting with
      | cons e rest =>
        simp [Mailbox.take, ht, encodeTaken, hj, Encoder.json]
      | nil =>
        by_cases hc : box.isClosed = true
        · simp only [Mailbox.take, ht, hc, if_true, closeTransport, Sink.close]
          cases hf : w.sink.closeFails <;>
            simp [finish, hj, hr, Sink.drop, Outcome.isLive, Mailbox.abandon]
        · simp [Mailbox.take, ht, hc, hj]
  · rw [if_neg hr]
    exact ⟨rfl, hj, rfl, rfl, Or.inl ⟨rfl, rfl⟩⟩

end Writer

namespace Pair

/-- What can be said of the pumps at each stage of their supervisor. -/
def Agrees : Stage → Outcome → Outcome → Prop
  | .fresh, writer, reader => writer = .idle ∧ reader = .idle
  | .watching, writer, reader =>
    writer ≠ .idle ∧ writer ≠ .cancelled ∧ reader ≠ .idle ∧ reader ≠ .cancelled
  | .draining, writer, reader =>
    writer ≠ .idle ∧ writer ≠ .cancelled ∧ reader.isLive = false ∧ reader ≠ .cancelled
  | .returned, writer, reader =>
    writer.isLive = false ∧ writer ≠ .cancelled ∧ reader.isLive = false
  | .cancelled, _, _ => False

structure Sound (p : Pair) : Prop where
  json : p.writer.encode = .json
  shared : p.reader.connection = p.writer.connection
  agrees : Agrees p.stage p.writer.outcome p.reader.outcome
  finished : p.writer.outcome = .finished → p.reader.hears = false

/-- Whether the hub has still to be told that the connection is at its end. -/
def claims (p : Pair) : Bool := p.stage ≠ .returned && p.reader.outcome.isLive

variable {p : Pair}

theorem sound_new (c : ConnectionId) (sink : Sink) : (Pair.new c .json sink).Sound where
  json := rfl
  shared := rfl
  agrees := ⟨rfl, rfl⟩
  finished h := nomatch h

/-- The rules say nothing of the transport. -/
theorem Sound.mapSink (h : p.Sound) (f : Sink → Sink) :
    ({ p with writer := { p.writer with sink := f p.writer.sink } } : Pair).Sound :=
  ⟨h.json, h.shared, h.agrees, h.finished⟩

/-- As long as its inbound side hears and its writer has not failed, a pair still claims its
connection. -/
theorem Sound.claims_of_hears (h : p.Sound) (hh : p.reader.hears = true)
    (hf : p.writer.outcome.hasFailed = false) : p.claims = true := by
  have hagrees := h.agrees
  have hreader := hh
  simp only [Reader.hears, Bool.and_eq_true, Bool.or_eq_true] at hreader
  cases hs : p.stage with
  | fresh =>
    rw [hs] at hagrees
    simp [claims, hs, hagrees.2, Outcome.isLive]
  | watching =>
    rw [hs] at hagrees
    simpa [claims, hs, hagrees.2.2.2] using hreader.2
  | draining =>
    rw [hs] at hagrees
    simp [hagrees.2.2.1, hagrees.2.2.2] at hreader
  | returned =>
    rw [hs] at hagrees
    obtain ⟨hended, hcancelled, -⟩ := hagrees
    cases ho : p.writer.outcome with
    | idle => rw [ho] at hended; cases hended
    | running => rw [ho] at hended; cases hended
    | finished => rw [h.finished ho] at hh; cases hh
    | stopped why => rw [ho] at hf; cases hf
    | panicked words => rw [ho] at hf; cases hf
    | cancelled => exact absurd ho hcancelled
  | cancelled => rw [hs] at hagrees; exact hagrees.elim

theorem Sound.start (h : p.Sound) : p.start.Sound ∧ p.start.connection = p.connection ∧
    p.start.claims = p.claims ∧ p.start.reader.hears = p.reader.hears ∧
    p.start.writer.outcome.isLive = p.writer.outcome.isLive := by
  cases hs : p.stage with
  | fresh =>
    have hagrees := h.agrees
    rw [hs] at hagrees
    obtain ⟨hw, hr⟩ := hagrees
    have hhears : p.start.reader.hears = p.reader.hears := by
      simp [Pair.start, hs, hr, Outcome.start, Reader.hears, Outcome.isLive]
    refine ⟨⟨?_, ?_, ?_, ?_⟩, ?_, ?_, hhears, ?_⟩
    · simpa [Pair.start, hs] using h.json
    · simpa [Pair.start, hs] using h.shared
    · simp [Pair.start, hs, hw, hr, Outcome.start, Agrees]
    · simp [Pair.start, hs, hw, Outcome.start]
    · simp [Pair.start, hs, Pair.connection]
    · simp [Pair.start, hs, hr, claims, Outcome.start, Outcome.isLive]
    · simp [Pair.start, hs, hw, Outcome.start, Outcome.isLive]
  | _ =>
    have hsame : p.start = p := by simp [Pair.start, hs]
    rw [hsame]
    exact ⟨h, rfl, rfl, rfl, rfl⟩

/-- A step of the writer keeps the rules, if the writer fails when it ends while the other side
hears. -/
theorem Sound.setWriter (h : p.Sound) {w : Writer} (hc : w.connection = p.writer.connection)
    (hj : w.encode = .json) (ho : w.outcome = p.writer.outcome ∨ p.writer.outcome = .running ∧
      w.outcome.isLive = false ∧ w.outcome ≠ .cancelled ∧
        (w.outcome.hasFailed = true ∨ p.reader.hears = false)) :
    ({ p with writer := w } : Pair).Sound where
  json := hj
  shared := h.shared.trans hc.symm
  agrees := by
    have hagrees := h.agrees
    rcases ho with ho | ⟨hr, hl, hn, -⟩
    · simpa [ho] using hagrees
    · have hidle : w.outcome ≠ .idle := by
        rintro hi
        rw [hi] at hl
        cases hl
      simp only [hr] at hagrees ⊢
      cases hs : p.stage <;> rw [hs] at hagrees <;> simp_all [Agrees, Outcome.isLive]
  finished hw := by
    rcases ho with ho | ⟨-, -, -, hfailed | hdeaf⟩
    · exact h.finished (ho ▸ hw)
    · rw [show w.outcome = .finished from hw] at hfailed
      cases hfailed
    · exact hdeaf

/-- A step of the reader keeps the rules, and with its end the claim. -/
theorem Sound.setReader (h : p.Sound) {r : Reader} (hc : r.connection = p.reader.connection)
    (hdeaf : p.reader.hears = false → r.hears = false)
    (ho : r.outcome = p.reader.outcome ∨ p.reader.outcome = .running ∧
      (r.outcome = .finished ∨ ∃ why, r.outcome = .stopped why)) :
    ({ p with reader := r } : Pair).Sound where
  json := h.json
  shared := hc.trans h.shared
  agrees := by
    have hagrees := h.agrees
    rcases ho with ho | ⟨hr, ho⟩
    · simpa [ho] using hagrees
    · simp only [hr] at hagrees
      cases hs : p.stage <;> rw [hs] at hagrees <;> rcases ho with ho | ⟨why, ho⟩ <;>
        simp_all [Agrees, Outcome.isLive]
  finished hw := hdeaf (h.finished hw)

theorem Sound.observeReader (h : p.Sound) : p.observeReader.1.Sound ∧
    p.observeReader.1.connection = p.connection ∧ p.observeReader.2.1 = [] ∧
    p.observeReader.1.claims = p.claims ∧ p.observeReader.1.writer = p.writer ∧
    p.observeReader.1.reader = p.reader := by
  unfold Pair.observeReader
  split
  · rename_i hgo
    simp only [Bool.and_eq_true, decide_eq_true_eq, Bool.not_eq_true'] at hgo
    have hagrees := h.agrees
    rw [hgo.1] at hagrees
    refine ⟨⟨h.json, h.shared, ?_, h.finished⟩, rfl, rfl, ?_, rfl, rfl⟩
    · exact ⟨hagrees.1, hagrees.2.1, hgo.2, hagrees.2.2.2⟩
    · simp [claims, hgo]
  · exact ⟨h, rfl, rfl, rfl, rfl, rfl⟩

/-- When the supervisor sees that the writer has ended, the claim is at its end. -/
theorem Sound.observeWriter (h : p.Sound) : p.observeWriter.1.Sound ∧
    p.observeWriter.1.connection = p.connection ∧ p.observeWriter.1.writer = p.writer ∧
    p.observeWriter.1.reader.hears = p.reader.hears ∧
    (p.observeWriter.2.1 = [] ∧ p.observeWriter.1 = p ∨
      p.observeWriter.2.1 = [.unregister p.connection] ∧
        p.observeWriter.1.claims = false) := by
  unfold Pair.observeWriter
  split
  · rename_i hgo
    simp only [Bool.and_eq_true, Bool.not_eq_true'] at hgo
    have hagrees := h.agrees
    have hends : ∀ r : Reader, r = (if p.stage = .watching then p.reader.cancel else p.reader) →
        r.connection = p.reader.connection ∧ r.hears = p.reader.hears ∧
          r.outcome.isLive = false := by
      rintro r rfl
      by_cases hs : p.stage = .watching
      · rw [if_pos hs]
        refine ⟨?_, p.reader.hears_cancel, ?_⟩ <;> unfold Reader.cancel
        · split <;> rfl
        · split
          · rfl
          · rename_i hlive
            exact Bool.eq_false_iff.mpr hlive
      · rw [if_neg hs]
        refine ⟨rfl, rfl, ?_⟩
        cases hs' : p.stage <;> rw [hs'] at hagrees <;> simp_all [Agrees, Stage.guards]
    obtain ⟨hc, hh, hl⟩ := hends _ rfl
    refine ⟨⟨h.json, hc.trans h.shared, ?_, ?_⟩, rfl, rfl, hh, Or.inr ⟨rfl, rfl⟩⟩
    · refine ⟨hgo.2, ?_, hl⟩
      cases hs' : p.stage <;> rw [hs'] at hagrees <;> simp_all [Agrees, Stage.guards]
    · intro hw
      exact hh.trans (h.finished hw)
  · exact ⟨h, rfl, rfl, rfl, Or.inl ⟨rfl, rfl⟩⟩

end Pair
end LiveUpdate
