import LiveUpdate.Pump.Writer
import LiveUpdate.Proofs.Glimpses

/-! A writer at its desk. Each of its steps is seen as one glimpse or none, and the desk after that
glimpse is the one at which it then sits. -/
namespace LiveUpdate

namespace Writer

/-- What a step of a writer lets be seen. -/
def glimpses (w : Writer) (box : Mailbox) : List Glimpse :=
  if w.outcome = .running then
    match w.inHand with
    | some (e, frame) =>
      if w.sink.ready then
        match w.sink.write (.text frame) with
        | .ok _ => [.shown e]
        | .error _ => []
      else []
    | none =>
      match box.waiting with
      | e :: _ => [.took e]
      | [] =>
        if box.isClosed then
          match w.sink.close with
          | .ok _ => [.closed w.sink.farewell.toList]
          | .error _ => []
        else []
  else []

/-- What a writer holds in hand when an event lies there. -/
def handful (hand : Option Event) : Option (Event × String) :=
  hand.map fun e => (e, Frame.json e)

/-- A mailbox holds what waits on a desk, as long as it is received from. -/
def Fills (d : Desk) (box : Mailbox) : Prop :=
  box.waiting = if box.intake = .listening then d.waiting else []

/-- A writer that has been greeted and the receiving half beside it are as a desk says, and these
frames went out. -/
structure Seated (d : Desk) (w : Writer) (link : Option WebSocket.Link) (told : List Outgoing) :
    Prop where
  link : link = d.link
  greeted : d.link.isSome = true
  farewell : w.sink.farewell = d.farewell
  sent : w.sink.sent = told
  hand : w.outcome.isLive = true → w.inHand = handful d.hand

theorem fills_abandon (d : Desk) (box : Mailbox) : Fills d box.abandon := rfl

/-- What has been seen leads from a desk to another, on which the writer and its mailbox are. -/
def Shows (capacity : Nat) (d : Desk) (link : Option WebSocket.Link) (told : List Outgoing)
    (seen : List Glimpse) (w : Writer) (box : Mailbox) : Prop :=
  ∃ d', d.follow capacity seen = some d' ∧ d'.stream = d.stream ∧ Fills d' box ∧
    Seated d' w link (told ++ seen.flatMap Glimpse.frames) ∧ seen.filterMap Glimpse.offer? = []

variable {capacity : Nat} {w : Writer} {box : Mailbox} {d : Desk} {link : Option WebSocket.Link}
  {told : List Outgoing}

/-- A writer that waits shows nothing. -/
theorem Seated.shows_nil (h : Seated d w link told) (hfills : Fills d box) :
    Shows capacity d link told [] w box := by
  refine ⟨d, rfl, rfl, hfills, ?_, rfl⟩
  rwa [List.flatMap_nil, List.append_nil]

/-- A writer that fails shows nothing. -/
theorem Seated.shows_fail (h : Seated d w link told) (why : Fault) :
    Shows capacity d link told [] (w.finish w.sink (.stopped why)) box.abandon := by
  refine ⟨d, rfl, rfl, fills_abandon d box, ⟨h.link, h.greeted, h.farewell, ?_, nofun⟩, rfl⟩
  rw [List.flatMap_nil, List.append_nil]
  exact h.sent

/-- The frame in hand goes out, or the writer fails. -/
theorem Seated.shows_writeInHand (h : Seated d w link told) {e : Event} (hh : d.hand = some e)
    (hfills : Fills d box) : Shows capacity d link told
      (match w.sink.write (.text (Frame.json e)) with
        | .ok _ => [.shown e]
        | .error _ => [])
      (w.writeInHand box e (Frame.json e)).1 (w.writeInHand box e (Frame.json e)).2.1 := by
  unfold writeInHand
  cases hs : w.sink.write (.text (Frame.json e)) with
  | error why => exact h.shows_fail _
  | ok sink =>
    have hsink : sink.sent = w.sink.sent ++ [.text (Frame.json e)] ∧
        sink.farewell = w.sink.farewell := by
      unfold Sink.write at hs
      split at hs
      · split at hs <;> cases hs
        exact ⟨rfl, rfl⟩
      · cases hs
        exact ⟨rfl, rfl⟩
    have hfollow : d.follow capacity [.shown e] = some { d with hand := none } := by
      rw [Desk.follow_singleton]
      exact if_pos ⟨hh, h.greeted⟩
    refine ⟨_, hfollow, rfl, hfills,
      ⟨h.link, h.greeted, hsink.2.trans h.farewell, ?_, fun _ => rfl⟩, rfl⟩
    rw [hsink.1, h.sent]
    rfl

/-- The transport is closed in order, or the writer fails. -/
theorem Seated.shows_closeTransport (h : Seated d w link told) : Shows capacity d link told
    (match w.sink.close with
      | .ok _ => [.closed w.sink.farewell.toList]
      | .error _ => [])
    (w.closeTransport box).1 (w.closeTransport box).2.1 := by
  unfold closeTransport
  cases hs : w.sink.close with
  | error why => exact h.shows_fail _
  | ok sink =>
    have hsink : sink.sent = w.sink.sent ++ w.sink.farewell.toList ∧ sink.farewell = none := by
      unfold Sink.close at hs
      split at hs <;> cases hs
      exact ⟨rfl, rfl⟩
    have hfollow : d.follow capacity [.closed w.sink.farewell.toList] =
        some { d with farewell := none } := by
      rw [Desk.follow_singleton]
      exact if_pos (by rw [h.farewell])
    refine ⟨_, hfollow, rfl, fills_abandon _ box, ⟨h.link, h.greeted, hsink.2, ?_, nofun⟩, rfl⟩
    show sink.sent = _
    rw [hsink.1, h.sent]
    simp [Glimpse.frames]

/-- The oldest event is taken in hand. -/
theorem Seated.shows_take (h : Seated d w link told) (hh : d.hand = none) {e : Event}
    {rest : List Event} (hw : d.waiting = e :: rest) (hl : box.intake = .listening) :
    Shows capacity d link told [.took e]
      { w with inHand := some (e, Frame.json e) } { box with waiting := rest } := by
  have hfollow : d.follow capacity [.took e] =
      some { d with waiting := rest, hand := some e } := by
    rw [Desk.follow_singleton]
    simp only [Desk.accept, hw, hh, if_true]
  refine ⟨_, hfollow, rfl, (if_pos hl).symm, ⟨h.link, h.greeted, h.farewell, ?_, fun _ => rfl⟩,
    rfl⟩
  show w.sink.sent = _
  rw [h.sent]
  simp [Glimpse.frames]

/-- A step of a writer is seen, and leaves the desk as the writer and its mailbox are. -/
theorem Seated.shows_step (h : Seated d w link told) (capacity : Nat) (hj : w.encode = .json)
    (hopen : w.outcome = .running → box.intake = .listening) (hfills : Fills d box) :
    Shows capacity d link told (w.glimpses box) (w.step box).1 (w.step box).2.1 := by
  by_cases hr : w.outcome = .running
  · have hlisten := hopen hr
    have hw : box.waiting = d.waiting := by rw [hfills, if_pos hlisten]
    have hinhand := h.hand (by rw [hr]; rfl)
    rw [glimpses, step, if_pos hr, if_pos hr]
    cases hh : d.hand with
    | some e =>
      have hheld : w.inHand = some (e, Frame.json e) := by rw [hinhand, hh]; rfl
      simp only [hheld]
      by_cases hready : w.sink.ready = true
      · rw [if_pos hready, if_pos hready]
        exact h.shows_writeInHand hh hfills
      · rw [if_neg hready, if_neg hready]
        exact h.shows_nil hfills
    | none =>
      have hheld : w.inHand = none := by rw [hinhand, hh]; rfl
      simp only [hheld]
      cases hb : box.waiting with
      | cons e rest =>
        have he : w.encode e = .frame (Frame.json e) := by rw [hj]; rfl
        simp only [Mailbox.take, hb, encodeTaken, he]
        exact h.shows_take hh (hw ▸ hb) hlisten
      | nil =>
        simp only [Mailbox.take, hb]
        by_cases hc : box.isClosed = true
        · rw [if_pos hc, if_pos hc]
          exact h.shows_closeTransport
        · rw [if_neg hc, if_neg hc]
          exact h.shows_nil hfills
  · rw [glimpses, step, if_neg hr, if_neg hr]
    exact h.shows_nil hfills

/-- A writer goes on without anything to be seen. -/
structure GoesOn (w w' : Writer) : Prop where
  sent : w'.sink.sent = w.sink.sent
  farewell : w'.sink.farewell = w.sink.farewell
  inHand : w'.inHand = w.inHand
  live : w'.outcome.isLive = true → w.outcome.isLive = true

theorem goesOn_refl (w : Writer) : w.GoesOn w := ⟨rfl, rfl, rfl, fun hl => hl⟩

theorem goesOn_sever (w : Writer) (why : String) :
    w.GoesOn { w with sink := w.sink.sever why } :=
  ⟨rfl, rfl, rfl, fun hl => hl⟩

theorem GoesOn.trans {w' w'' : Writer} (h : w.GoesOn w') (h' : w'.GoesOn w'') : w.GoesOn w'' :=
  ⟨h'.sent.trans h.sent, h'.farewell.trans h.farewell, h'.inHand.trans h.inHand,
    fun hl => h.live (h'.live hl)⟩

theorem Seated.goesOn {w' : Writer} (h : Seated d w link told) (hw : w.GoesOn w') :
    Seated d w' link told where
  link := h.link
  greeted := h.greeted
  farewell := hw.farewell.trans h.farewell
  sent := hw.sent.trans h.sent
  hand hl := hw.inHand.trans (h.hand (hw.live hl))

end Writer
end LiveUpdate
