import LiveUpdate.Proofs.Actions
import LiveUpdate.Proofs.SseParsing

/-! What is read of the body of a stream. It gives out the blocks of the events that wait, in their
order, and a comment only in place of an event that is not there, after a silence of one interval. -/
namespace LiveUpdate

/-- What has been read of a body, chunk by chunk, and when. -/
abbrev Readings := List (Nat × String)

namespace Readings

/-- The time of the last chunk, or a time before the first. -/
def last (since : Nat) : Readings → Nat
  | [] => since
  | (t, _) :: rest => last t rest

/-- No comment comes sooner than an interval after what comes before it. -/
def Paced (interval since : Nat) : Readings → Prop
  | [] => True
  | (t, text) :: rest => (text = Frame.keepAlive → since + interval ≤ t) ∧ Paced interval t rest

/-- The chunks, comments apart. -/
def blocks (log : Readings) : List String := (log.map Prod.snd).filter (· ≠ Frame.keepAlive)

variable {interval since : Nat}

@[simp] theorem last_append (log more : Readings) :
    last since (log ++ more) = last (last since log) more := by
  induction log generalizing since with
  | nil => rfl
  | cons chunk rest ih => exact ih

theorem paced_append {log more : Readings} : Paced interval since (log ++ more) ↔
    Paced interval since log ∧ Paced interval (last since log) more := by
  induction log generalizing since with
  | nil => simp [Paced, last]
  | cons chunk rest ih => simp only [List.cons_append, Paced, last, ih, and_assoc]

@[simp] theorem blocks_append (log more : Readings) :
    blocks (log ++ more) = blocks log ++ blocks more := by
  simp [blocks]

end Readings

namespace Stream

variable {x : Stream} {box : Mailbox} {now interval since : Nat}

/-- The next comment is due one interval after some moment. -/
structure Awaits (x : Stream) (interval since : Nat) : Prop where
  keepAlive : x.keepAlive = some interval
  due : x.due = some (since + interval)

theorem Awaits.restart (h : x.Awaits interval since) (now : Nat) :
    (x.restart now).Awaits interval now :=
  ⟨h.keepAlive, by simp [Stream.restart, h.keepAlive]⟩

theorem awaits_new (c : ConnectionId) (interval now : Nat) :
    (new c (some interval) now).Awaits interval now := ⟨rfl, rfl⟩

/-- What is read are the blocks of the waiting events, and then comments, if nothing is left to be
read and the mailbox is open. -/
theorem read_texts (x : Stream) (box : Mailbox) (now limit : Nat) :
    ∃ comments, (x.read box now limit).1 = (box.waiting.take limit).map Frame.sse ++
        List.replicate comments Frame.keepAlive ∧
      (0 < comments → box.waiting.length < limit ∧ box.isClosed = false) := by
  induction limit generalizing x box with
  | zero => exact ⟨0, by simp [read], fun h => absurd h (Nat.lt_irrefl 0)⟩
  | succ limit ih =>
    cases hw : box.waiting with
    | cons e rest =>
      obtain ⟨comments, htexts, hopen⟩ := ih (x.restart now) { box with waiting := rest }
      refine ⟨comments, ?_, fun h => ⟨Nat.succ_lt_succ (hopen h).1, (hopen h).2⟩⟩
      simp only [read, poll, Mailbox.take, hw, List.take_succ_cons, List.map_cons,
        List.cons_append, htexts]
    | nil =>
      by_cases hc : box.isClosed = true
      · exact ⟨0, by simp [read, poll, Mailbox.take, hw, hc], fun h => absurd h (Nat.lt_irrefl 0)⟩
      · have hopen := Bool.eq_false_iff.mpr hc
        by_cases hdue : ∃ due, x.due = some due ∧ due ≤ now
        · obtain ⟨due, hx, hnow⟩ := hdue
          obtain ⟨comments, htexts, -⟩ := ih (x.restart now) box
          rw [hw] at htexts
          refine ⟨comments + 1, ?_, fun _ => ⟨Nat.succ_pos limit, hopen⟩⟩
          simp [read, poll, Mailbox.take, hw, hopen, hx, hnow, htexts, List.replicate_succ]
        · refine ⟨0, ?_, fun h => absurd h (Nat.lt_irrefl 0)⟩
          cases hx : x.due with
          | none => simp [read, poll, Mailbox.take, hw, hopen, hx]
          | some due =>
            have hnow : ¬ due ≤ now := fun hnow => hdue ⟨due, hx, hnow⟩
            simp [read, poll, Mailbox.take, hw, hopen, hx, hnow]

/-- A body ends where it has given out all that waited and the mailbox is closed. -/
theorem read_ended (x : Stream) (box : Mailbox) (now limit : Nat) :
    (x.read box now limit).2.1 = true ↔ box.waiting.length < limit ∧ box.isClosed = true := by
  induction limit generalizing x box with
  | zero => simp [read]
  | succ limit ih =>
    cases hw : box.waiting with
    | cons e rest =>
      have hrest := ih (x.restart now) { box with waiting := rest }
      have hclosed : Mailbox.isClosed { box with waiting := rest } = box.isClosed := rfl
      simpa [read, poll, Mailbox.take, hw, hclosed] using hrest
    | nil =>
      have hrest := ih (x.restart now) box
      by_cases hc : box.isClosed = true
      · simp [read, poll, Mailbox.take, hw, hc]
      · cases hx : x.due with
        | none => simp [read, poll, Mailbox.take, hw, hc, hx]
        | some due =>
          by_cases hnow : due ≤ now
          · simp [read, poll, Mailbox.take, hw, hc, hx, hnow] at hrest ⊢
            exact hrest
          · simp [read, poll, Mailbox.take, hw, hc, hx, hnow]

/-- Comments are read in due time, and every chunk puts off the next one. -/
theorem Awaits.read (h : x.Awaits interval since) (box : Mailbox) (now limit : Nat) :
    Readings.Paced interval since ((x.read box now limit).1.map (now, ·)) ∧
      (x.read box now limit).2.2.1.Awaits interval
        (Readings.last since ((x.read box now limit).1.map (now, ·))) := by
  induction limit generalizing x box since with
  | zero => exact ⟨trivial, h⟩
  | succ limit ih =>
    cases hw : box.waiting with
    | cons e rest =>
      obtain ⟨hpaced, hlast⟩ := ih (h.restart now) { box with waiting := rest }
      simp only [Stream.read, poll, Mailbox.take, hw, List.map_cons]
      exact ⟨⟨fun he => absurd he (Sse.sse_ne_keepAlive e), hpaced⟩, hlast⟩
    | nil =>
      by_cases hc : box.isClosed = true
      · simp only [Stream.read, poll, Mailbox.take, hw, hc, if_true]
        exact ⟨trivial, h⟩
      · by_cases hnow : since + interval ≤ now
        · obtain ⟨hpaced, hlast⟩ := ih (h.restart now) box
          simp only [Stream.read, poll, Mailbox.take, hw, hc, h.due, hnow, if_true]
          exact ⟨⟨fun _ => hnow, hpaced⟩, hlast⟩
        · simp only [Stream.read, poll, Mailbox.take, hw, hc, h.due, hnow]
          exact ⟨trivial, h⟩

/-- Comments apart, what is read are the blocks of the events that are taken. -/
theorem blocks_read (x : Stream) (box : Mailbox) (now limit : Nat) :
    Readings.blocks ((x.read box now limit).1.map (now, ·)) =
      (box.waiting.take limit).map Frame.sse := by
  obtain ⟨comments, htexts, -⟩ := x.read_texts box now limit
  have hblock : ∀ text ∈ (box.waiting.take limit).map Frame.sse, text ≠ Frame.keepAlive := by
    intro text htext
    obtain ⟨e, -, rfl⟩ := List.mem_map.mp htext
    exact Sse.sse_ne_keepAlive e
  have hall := List.filter_eq_self.mpr fun text htext => decide_eq_true (hblock text htext)
  have hchunks : ((x.read box now limit).1.map (now, ·)).map Prod.snd =
      (x.read box now limit).1 := by
    rw [List.map_map]
    exact List.map_id _
  rw [Readings.blocks, hchunks, htexts, List.filter_append, hall, List.filter_replicate]
  simp

end Stream

namespace Session

/-- The chunks that an action reads of a body. -/
def readings (s : Session) (i : Nat) : Action → Readings
  | .web (.read j limit) =>
    if j = i then (((s.readStream i limit).1.map Prod.fst).getD []).map (s.clock, ·) else []
  | _ => []

/-- The chunks that a run reads of a body. -/
def readingsIn (config : Config) (i : Nat) : Session → List Action → Readings
  | _, [] => []
  | s, action :: rest => s.readings i action ++ readingsIn config i (s.enact config action) rest

variable {s : Session} {i : Nat} {x : Stream} {box : Mailbox}

theorem readStream_of_absent (limit : Option Nat) (h : s.streams.get? i = none ∨
    ∃ x, s.streams.get? i = some x ∧ s.hub.mailbox? x.connection = none) :
    s.readStream i limit = (none, s) := by
  rcases h with hi | ⟨x, hi, hbox⟩
  · simp only [readStream, hi]
  · simp only [readStream, hi, hbox]

theorem readings_of_body (hi : s.streams.get? i = some x)
    (hbox : s.hub.mailbox? x.connection = some box) (limit : Option Nat) :
    s.readings i (.web (.read i limit)) =
      (x.read box s.clock (limit.getD (box.waiting.length + 2))).1.map (s.clock, ·) := by
  rw [readings, if_pos rfl, readStream_eq hi hbox]
  rfl

end Session
end LiveUpdate
