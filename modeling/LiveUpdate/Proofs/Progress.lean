import LiveUpdate.Proofs.CustodySteps

/-! What is left to be done in a session is a number. A move lowers it, or gives nobody anything to
do; no move raises it. -/
namespace LiveUpdate

namespace Table

variable {κ α : Type} [DecidableEq κ]

/-- What the values of a table come to. -/
def total (f : α → Nat) (t : Table κ α) : Nat := (t.entries.map fun e => f e.2).sum

theorem sum_insertEntry (f : α → Nat) {k : κ} {v : α} (w : α) {es : List (κ × α)}
    (h : es.lookup k = some v) :
    ((insertEntry k w es).map fun e => f e.2).sum + f v =
      (es.map fun e => f e.2).sum + f w := by
  induction es with
  | nil => cases h
  | cons e rest ih =>
    obtain ⟨k', u⟩ := e
    by_cases hk : k' = k
    · subst hk
      rw [List.lookup_cons_self, Option.some.injEq] at h
      simp only [insertEntry, if_pos, List.map_cons, List.sum_cons, h]
      omega
    · rw [lookup_cons_of_ne hk] at h
      have hrest := ih h
      simp only [insertEntry, if_neg hk, List.map_cons, List.sum_cons]
      omega

theorem total_insert (f : α → Nat) {t : Table κ α} {k : κ} {v : α} (w : α)
    (h : t.get? k = some v) : (t.insert k w).total f + f v = t.total f + f w :=
  sum_insertEntry f w h

omit [DecidableEq κ] in
theorem total_le (f : α → Nat) {bound : Nat}
    (hf : ∀ v, f v ≤ bound) (t : Table κ α) : t.total f ≤ bound * t.keys.length := by
  have hall (es : List (κ × α)) : (es.map fun e => f e.2).sum ≤ bound * es.length := by
    induction es with
    | nil => exact Nat.le_refl _
    | cons e rest ih =>
      have hfirst := hf e.2
      rw [List.map_cons, List.sum_cons, List.length_cons, Nat.mul_succ]
      omega
  rw [keys, List.length_map]
  exact hall t.entries

theorem keys_insertEntry {k : κ} {v : α} (w : α) {es : List (κ × α)}
    (h : es.lookup k = some v) : (insertEntry k w es).map Prod.fst = es.map Prod.fst := by
  induction es with
  | nil => cases h
  | cons e rest ih =>
    obtain ⟨k', u⟩ := e
    by_cases hk : k' = k
    · simp [insertEntry, hk]
    · rw [lookup_cons_of_ne hk] at h
      simp [insertEntry, hk, ih h]

/-- Another value for a key that is there leaves the keys as they are. -/
theorem keys_insert {t : Table κ α} {k : κ} {v : α} (w : α) (h : t.get? k = some v) :
    (t.insert k w).keys = t.keys := keys_insertEntry w h

theorem any_insertEntry {f : α → Bool} {k : κ} {v : α} (w : α) {es : List (κ × α)}
    (h : es.lookup k = some v) (hf : f w = f v) :
    ((insertEntry k w es).map Prod.snd).any f = (es.map Prod.snd).any f := by
  induction es with
  | nil => cases h
  | cons e rest ih =>
    obtain ⟨k', u⟩ := e
    by_cases hk : k' = k
    · subst hk
      rw [List.lookup_cons_self, Option.some.injEq] at h
      simp [insertEntry, h, hf]
    · rw [lookup_cons_of_ne hk] at h
      simp only [insertEntry, if_neg hk, List.map_cons, List.any_cons, ih h]

/-- Another value that passes the same test leaves open whether any value passes it. -/
theorem any_insert {f : α → Bool} {t : Table κ α} {k : κ} {v : α} (w : α)
    (h : t.get? k = some v) (hf : f w = f v) : (t.insert k w).values.any f = t.values.any f :=
  any_insertEntry w h hf

theorem length_keys_erase {t : Table κ α} {k : κ} {v : α} (h : t.get? k = some v) :
    (t.erase k).keys.length < t.keys.length := by
  have hk : k ∈ t.keys := (t.mem_keys_iff k).mpr (by rw [h]; rfl)
  obtain ⟨e, he, hek⟩ := List.mem_map.mp hk
  simp only [keys, erase, List.length_map]
  exact List.length_filter_lt_length_iff_exists.mpr ⟨e, he, by simp [hek]⟩

end Table

/-! ### What is left to be done -/

def Outcome.weight (o : Outcome) : Nat := if o.isLive then 1 else 0

def Stage.weight : Stage → Nat
  | .fresh => 3
  | .watching => 2
  | .draining => 1
  | .returned | .cancelled => 0

/-- How much a task can still do for good. -/
def Task.weight : Task → Nat
  | .writing w => w.outcome.weight
  | .reading r => r.outcome.weight
  | .paired p => p.stage.weight + p.writer.outcome.weight + p.reader.outcome.weight

theorem Outcome.weight_le (o : Outcome) : o.weight ≤ 1 := by
  unfold weight
  split <;> omega

@[simp] theorem Outcome.weight_start (o : Outcome) : o.start.weight = o.weight := by
  cases o <;> rfl

theorem Task.weight_le (t : Task) : t.weight ≤ 5 := by
  cases t with
  | writing w => exact Nat.le_trans w.outcome.weight_le (by decide)
  | reading r => exact Nat.le_trans r.outcome.weight_le (by decide)
  | paired p =>
    have hw := p.writer.outcome.weight_le
    have hr := p.reader.outcome.weight_le
    have hs : p.stage.weight ≤ 3 := by cases p.stage <;> decide
    simp only [weight]
    omega

/-! ### Pumps that have nothing to do -/

namespace Writer

/-- How many steps a writer can still make without an end. -/
def effort (w : Writer) (box : Mailbox) : Nat :=
  2 * box.waiting.length + if w.inHand.isSome then 1 else 0

variable {w : Writer} {box : Mailbox}

theorem step_of_idle (h : w.canGo box = false) : w.step box = (w, box, []) := by
  unfold step
  by_cases hr : w.outcome = .running
  · rw [if_pos hr]
    simp only [canGo, hr, decide_true, Bool.true_and] at h
    cases hh : w.inHand with
    | some hand =>
      rw [hh] at h
      have hready : w.sink.ready = false := h
      simp [hready]
    | none =>
      rw [hh] at h
      simp only [Bool.or_eq_false_iff, Bool.not_eq_false', List.isEmpty_iff] at h
      simp [Mailbox.take, h.1, h.2]
  · rw [if_neg hr]

/-- A writer has something to do only with a letter that waits or a box that is closed. -/
theorem canGo_of_waiting (w : Writer) {box box' : Mailbox}
    (hwaiting : box'.waiting ≠ [] → box.waiting ≠ []) (hclosed : box'.isClosed = box.isClosed)
    (hw : w.canGo box' = true) : w.canGo box = true := by
  simp only [canGo, ← hclosed] at hw ⊢
  cases hh : w.inHand with
  | some hand => simpa [hh] using hw
  | none =>
    rw [hh] at hw
    simp only [Bool.and_eq_true, Bool.or_eq_true, Bool.not_eq_true', List.isEmpty_eq_false_iff]
      at hw ⊢
    exact ⟨hw.1, hw.2.imp_left hwaiting⟩

/-- A step without an end brings the end of the work nearer. -/
theorem effort_step (hgo : w.canGo box = true) (ho : (w.step box).1.outcome = w.outcome) :
    (w.step box).1.effort (w.step box).2.1 < w.effort box := by
  simp only [canGo, Bool.and_eq_true, decide_eq_true_eq] at hgo
  obtain ⟨hr, hgo⟩ := hgo
  unfold step at ho ⊢
  rw [if_pos hr] at ho ⊢
  cases hh : w.inHand with
  | some hand =>
    obtain ⟨e, frame⟩ := hand
    rw [hh] at hgo
    have hready : w.sink.ready = true := hgo
    simp only [hh, hready, if_true, writeInHand] at ho ⊢
    cases hw : w.sink.write (.text frame) with
    | ok sink => simp [effort, hh]
    | error why => simp [hw, finish, hr] at ho
  | none =>
    rw [hh] at hgo
    cases ht : box.waiting with
    | cons e rest =>
      simp only [hh, Mailbox.take, ht, encodeTaken] at ho ⊢
      cases he : w.encode e with
      | frame content => simp [effort, hh, ht]; omega
      | refused why => simp [effort, hh, ht]
      | crashed words => simp [he, finish, hr] at ho
    | nil =>
      have hclosed : box.isClosed = true := by simpa [ht] using hgo
      simp only [hh, Mailbox.take, ht, hclosed, if_true, closeTransport] at ho
      cases hc : w.sink.close <;> simp [hc, finish, hr] at ho

/-- A step of a writer, whatever its encoder and its transport do: it goes on, or it ends. -/
theorem step_goes (w : Writer) (box : Mailbox) :
    (w.step box).1.outcome = w.outcome ∧ (w.step box).2.1.intake = box.intake ∨
      w.outcome.isLive = true ∧ (w.step box).1.outcome.isLive = false := by
  unfold step
  by_cases hr : w.outcome = .running
  · have hl : w.outcome.isLive = true := by rw [hr]; rfl
    rw [if_pos hr]
    cases w.inHand with
    | some hand =>
      obtain ⟨e, frame⟩ := hand
      cases w.sink.ready with
      | false => exact Or.inl ⟨rfl, rfl⟩
      | true =>
        simp only [if_true, writeInHand]
        cases w.sink.write (.text frame) with
        | ok sink => exact Or.inl ⟨rfl, rfl⟩
        | error why => exact Or.inr ⟨hl, rfl⟩
    | none =>
      cases ht : box.waiting with
      | cons e rest =>
        simp only [Mailbox.take, ht, encodeTaken]
        cases w.encode e with
        | crashed words => exact Or.inr ⟨hl, rfl⟩
        | _ => exact Or.inl ⟨rfl, rfl⟩
      | nil =>
        simp only [Mailbox.take, ht]
        cases box.isClosed with
        | false => exact Or.inl ⟨rfl, rfl⟩
        | true =>
          simp only [if_true, closeTransport]
          cases w.sink.close <;> exact Or.inr ⟨hl, rfl⟩
  · rw [if_neg hr]
    exact Or.inl ⟨rfl, rfl⟩

/-- A writer takes what waits, and puts nothing there. -/
theorem waiting_step (w : Writer) (box : Mailbox) (h : (w.step box).2.1.waiting ≠ []) :
    box.waiting ≠ [] := by
  intro ht
  apply h
  unfold step
  split
  · split
    · split
      · unfold writeInHand
        split
        · exact ht
        · rfl
      · exact ht
    · simp only [Mailbox.take, ht]
      split
      · rfl
      · exact ht
  · exact ht

end Writer

namespace Reader

variable {r : Reader}

theorem step_of_idle (h : r.canGo = false) : r.step = (r, [], []) := by
  unfold step
  by_cases hr : r.outcome = .running
  · simp only [canGo, hr, decide_true, Bool.true_and, Bool.or_eq_false_iff, Bool.not_eq_false',
      List.isEmpty_iff] at h
    simp [hr, h.1, h.2]
  · rw [if_neg hr]

theorem length_arrived_step (hgo : r.canGo = true) (ho : r.step.1.outcome = r.outcome) :
    r.step.1.arrived.length < r.arrived.length := by
  simp only [canGo, Bool.and_eq_true, decide_eq_true_eq] at hgo
  obtain ⟨hr, hgo⟩ := hgo
  unfold step at ho ⊢
  rw [if_pos hr] at ho ⊢
  cases ha : r.arrived with
  | nil =>
    have hended : r.ended = true := by simpa [ha] using hgo
    simp [ha, hended, hr] at ho
  | cons frame rest => cases frame <;> simp [ha, hr] at ho ⊢

end Reader

/-- What the control loop can still do for good: apply what is pending, and end. -/
def Hub.weight (hub : Hub) : Nat := hub.pending.length + if hub.running then 1 else 0

theorem Hub.weight_submit_le (hub : Hub) (command : Command) :
    (hub.submit command).weight ≤ hub.weight + 1 := by
  unfold submit
  split
  · simp only [weight, List.length_append, List.length_singleton]
    omega
  · exact Nat.le_succ _

theorem Hub.weight_submitAll_le (hub : Hub) (commands : List Command) :
    (hub.submitAll commands).weight ≤ hub.weight + commands.length := by
  induction commands generalizing hub with
  | nil => exact Nat.le_refl _
  | cons command rest ih =>
    have hfirst := hub.weight_submit_le command
    have hrest := ih (hub.submit command)
    have hall : (hub.submitAll (command :: rest)).weight =
      ((hub.submit command).submitAll rest).weight := rfl
    rw [hall, List.length_cons]
    omega

/-- A hub that brings its tasks nothing to do that was not there before. -/
structure Hub.Calm (hub hub' : Hub) : Prop where
  pending : hub'.pending = hub.pending
  running : hub'.running = hub.running
  boxes : ∀ c box', hub'.mailbox? c = some box' → ∃ box, hub.mailbox? c = some box ∧
    (box'.waiting ≠ [] → box.waiting ≠ []) ∧ box'.isClosed = box.isClosed

theorem Hub.calm_logAll (hub : Hub) (entries : List Entry) : hub.Calm (hub.logAll entries) :=
  ⟨rfl, rfl, fun _ box' hbox => ⟨box', hbox, id, rfl⟩⟩

theorem Hub.Calm.weight {hub hub' : Hub} (h : hub.Calm hub') : hub'.weight = hub.weight := by
  simp only [Hub.weight, h.pending, h.running]

theorem Hub.mailbox?_updateMailbox_const {hub : Hub} {c : ConnectionId} {box : Mailbox}
    (hbox : hub.mailbox? c = some box) (box' : Mailbox) (c' : ConnectionId) :
    (hub.updateMailbox c fun _ => box').mailbox? c' =
      if c' = c then some box' else hub.mailbox? c' := by
  simp only [Hub.mailbox?, Hub.updateMailbox, Table.get?_modify] at hbox ⊢
  split
  · rename_i hc
    rw [hc, hbox]
    rfl
  · rfl

/-! ### The parts of a task -/

namespace Task

/-- Whether a task has still to begin. -/
def isFresh : Task → Bool
  | paired p => p.stage = .fresh
  | _ => false

variable {t : Task} {w : Writer} {r : Reader}

theorem eq_paired {p : Pair} (h : t.pair? = some p) : t = .paired p := by
  cases t <;> cases h
  rfl

theorem connection_of_writer? (h : t.writer? = some w) : t.connection = w.connection := by
  cases t with
  | writing w' => exact congrArg Writer.connection (Option.some.inj h)
  | reading r => cases h
  | paired p => exact congrArg Writer.connection (Option.some.inj h)

theorem weight_setWriter (h : t.writer? = some w) (w' : Writer) :
    (t.setWriter w').weight + w.outcome.weight = t.weight + w'.outcome.weight := by
  cases t with
  | reading r => cases h
  | _ =>
    cases h
    simp only [setWriter, weight]
    omega

theorem weight_setReader (h : t.reader? = some r) (r' : Reader) :
    (t.setReader r').weight + r.outcome.weight = t.weight + r'.outcome.weight := by
  cases t with
  | writing w => cases h
  | _ =>
    cases h
    simp only [setReader, weight]
    omega

@[simp] theorem holds_setWriter (t : Task) (w : Writer) : (t.setWriter w).holds = t.holds := by
  cases t <;> rfl

theorem holds_setReader (h : t.reader? = some r) {r' : Reader} (ho : r'.outcome = r.outcome) :
    (t.setReader r').holds = t.holds := by
  cases t with
  | writing w => cases h
  | reading r₀ =>
    cases h
    simp only [setReader, holds, ho]
  | paired p =>
    cases h
    simp only [setReader, holds, Pair.holds, Pair.isLive, ho]

@[simp] theorem isFresh_setWriter (t : Task) (w : Writer) : (t.setWriter w).isFresh = t.isFresh := by
  cases t <;> rfl

@[simp] theorem isFresh_setReader (t : Task) (r : Reader) : (t.setReader r).isFresh = t.isFresh := by
  cases t <;> rfl

theorem writer?_setWriter (h : t.writer? = some w) (w' : Writer) :
    (t.setWriter w').writer? = some w' := by
  cases t <;> first | rfl | cases h

theorem reader?_setReader (h : t.reader? = some r) (r' : Reader) :
    (t.setReader r').reader? = some r' := by
  cases t <;> first | rfl | cases h

/-- A task that is cut off gets more done for good than the word it leaves behind. -/
theorem weight_abort (t : Task) : t.abort.2.length + 2 * t.abort.1.weight ≤ 2 * t.weight := by
  have hwriter (w : Writer) : w.cancel.outcome.weight ≤ w.outcome.weight := by
    unfold Writer.cancel
    split
    · exact Nat.zero_le _
    · exact Nat.le_refl _
  have hreader (r : Reader) : r.cancel.outcome.weight ≤ r.outcome.weight := by
    unfold Reader.cancel
    split
    · exact Nat.zero_le _
    · exact Nat.le_refl _
  cases t with
  | writing w => simpa [abort, weight] using hwriter w
  | reading r => simpa [abort, weight] using hreader r
  | paired p =>
    have hw := hwriter p.writer
    have hr := hreader p.reader
    simp only [abort, Pair.abort]
    cases hs : p.stage <;> simp only [weight, Stage.weight, hs, List.length_nil,
      List.length_singleton] <;> omega

theorem isFresh_abort (t : Task) : t.abort.1.isFresh = false := by
  cases t with
  | writing w => rfl
  | reading r => rfl
  | paired p =>
    simp only [abort, Pair.abort]
    cases hs : p.stage <;> simp [isFresh, hs]

end Task

namespace Session

variable {s s' : Session}

/-- How much can still be done for good; what leaves a command behind counts twice. -/
def weight (s : Session) : Nat :=
  s.hub.weight + 2 * s.tasks.total Task.weight + 2 * s.greetings.keys.length + 2 * s.doomed.length

/-- Every task that is to be cancelled is there. -/
def Tidy (s : Session) : Prop := ∀ i ∈ s.doomed, i ∈ s.tasks.keys

/-- A session that goes on: it gets something done for good, or gives nobody anything to do. -/
structure Advances (s s' : Session) : Prop where
  weight : s'.weight ≤ s.weight
  quiet : s'.weight < s.weight ∨ ∀ w, s'.canGo w = true → s.canGo w = true
  tasks : s'.tasks.keys = s.tasks.keys
  greetings : s'.greetings.keys.length ≤ s.greetings.keys.length
  doomed : ∀ i ∈ s'.doomed, i ∈ s.doomed
  begun : ∀ i t', s'.tasks.get? i = some t' → t'.isFresh = true →
    ∃ t, s.tasks.get? i = some t ∧ t.isFresh = true

theorem Advances.refl (s : Session) : s.Advances s :=
  ⟨Nat.le_refl _, Or.inr fun _ h => h, rfl, Nat.le_refl _, fun _ h => h,
    fun _ t hi hf => ⟨t, hi, hf⟩⟩

theorem Advances.trans {s'' : Session} (h : s.Advances s') (h' : s'.Advances s'') :
    s.Advances s'' where
  weight := Nat.le_trans h'.weight h.weight
  quiet := by
    have hle := h.weight
    have hle' := h'.weight
    rcases h.quiet with hlt | hq
    · left
      omega
    · rcases h'.quiet with hlt' | hq'
      · left
        omega
      · exact Or.inr fun w hw => hq w (hq' w hw)
  tasks := h'.tasks.trans h.tasks
  greetings := Nat.le_trans h'.greetings h.greetings
  doomed i hi := h.doomed i (h'.doomed i hi)
  begun i t hi hf := by
    obtain ⟨t', hi', hf'⟩ := h'.begun i t hi hf
    exact h.begun i t' hi' hf'

theorem Advances.tidy (h : s.Advances s') (ht : s.Tidy) : s'.Tidy :=
  fun i hi => h.tasks ▸ ht i (h.doomed i hi)

theorem length_workers (s : Session) :
    s.workers.length = 3 * s.tasks.keys.length + s.greetings.keys.length + 1 := by
  simp only [workers, List.length_append, List.length_cons, List.length_flatMap, List.length_nil,
    List.map_const', List.sum_replicate_nat, List.length_map]
  omega

theorem Advances.workers (h : s.Advances s') : s'.workers.length ≤ s.workers.length := by
  have hgreetings := h.greetings
  rw [length_workers, length_workers, h.tasks]
  omega

/-! ### What a move gets done -/

section

variable {i : Nat} {t : Task} (t' : Task) (hub : Hub) (links : Table Nat WebSocket.Link)

theorem weight_putTask (hi : s.tasks.get? i = some t) :
    (s.putTask i t' hub links).weight + s.hub.weight + 2 * t.weight =
      s.weight + hub.weight + 2 * t'.weight := by
  have htotal := Table.total_insert Task.weight t' hi
  simp only [weight, putTask]
  omega

theorem held_putTask (hi : s.tasks.get? i = some t) (hholds : t'.holds = t.holds) :
    (s.putTask i t' hub links).held = s.held :=
  congrArg (_ || ·) (Table.any_insert t' hi hholds)

theorem begun_putTask (hi : s.tasks.get? i = some t)
    (hf : t'.isFresh = true → t.isFresh = true) (j : Nat) (u : Task)
    (hj : (s.putTask i t' hub links).tasks.get? j = some u) (hu : u.isFresh = true) :
    ∃ u', s.tasks.get? j = some u' ∧ u'.isFresh = true := by
  rw [get?_putTask] at hj
  split at hj
  · rename_i hji
    cases hj
    exact ⟨t, hji ▸ hi, hf hu⟩
  · exact ⟨u, hj, hu⟩

/-- What a task gets done for good. -/
theorem advances_of_lt (hi : s.tasks.get? i = some t) (hf : t'.isFresh = true → t.isFresh = true)
    (hlt : hub.weight + 2 * t'.weight < s.hub.weight + 2 * t.weight) :
    s.Advances (s.putTask i t' hub links) ∧ (s.putTask i t' hub links).weight < s.weight := by
  have hweight := weight_putTask t' hub links hi
  have hless : (s.putTask i t' hub links).weight < s.weight := by omega
  exact ⟨⟨Nat.le_of_lt hless, Or.inl hless, Table.keys_insert t' hi, Nat.le_refl _,
    fun _ h => h, begun_putTask t' hub links hi hf⟩, hless⟩

theorem writerCanGo_of_calm (h : s.hub.Calm hub) {w : Writer}
    (hw : (s.putTask i t' hub links).writerCanGo w = true) : s.writerCanGo w = true := by
  simp only [writerCanGo, putTask] at hw ⊢
  cases hbox : hub.mailbox? w.connection with
  | none =>
    rw [hbox] at hw
    cases hw
  | some box' =>
    obtain ⟨box, hold, hwaiting, hclosed⟩ := h.boxes _ _ hbox
    rw [hbox] at hw
    rw [hold]
    exact w.canGo_of_waiting hwaiting hclosed hw

/-- The workers that a task can have. -/
def workersOf (i : Nat) : List Worker := [.task i, .writer i, .reader i]

/-- What a task does on its way gives nobody else anything to do. -/
theorem canGo_of_calm (hi : s.tasks.get? i = some t) (hcalm : s.hub.Calm hub)
    (hholds : t'.holds = t.holds)
    (hown : ∀ w ∈ workersOf i, (s.putTask i t' hub links).canGo w = true → s.canGo w = true)
    (w : Worker) (hw : (s.putTask i t' hub links).canGo w = true) : s.canGo w = true := by
  have hother {j : Nat} (hj : j ≠ i) :
      (s.putTask i t' hub links).tasks.get? j = s.tasks.get? j := by
    rw [get?_putTask, if_neg hj]
  cases w with
  | hub =>
    have hheld := held_putTask t' hub links hi hholds
    simp only [canGo, hheld] at hw ⊢
    simpa [putTask, hcalm.pending, hcalm.running] using hw
  | task j =>
    by_cases hj : j = i
    · exact hown _ (by simp [workersOf, hj]) hw
    · simp only [canGo, hother hj, Bool.or_eq_true] at hw ⊢
      refine hw.imp_right fun hw => ?_
      cases ht : s.tasks.get? j with
      | none => rw [ht] at hw; cases hw
      | some u =>
        rw [ht] at hw
        cases u with
        | writing w => exact writerCanGo_of_calm t' hub links hcalm hw
        | reading r => exact hw
        | paired q => exact hw
  | writer j =>
    by_cases hj : j = i
    · exact hown _ (by simp [workersOf, hj]) hw
    · simp only [canGo, hother hj] at hw ⊢
      cases ht : (s.tasks.get? j).bind Task.pair? with
      | none => rw [ht] at hw; cases hw
      | some q =>
        rw [ht] at hw
        exact writerCanGo_of_calm t' hub links hcalm hw
  | reader j =>
    by_cases hj : j = i
    · exact hown _ (by simp [workersOf, hj]) hw
    · simpa only [canGo, hother hj] using hw
  | greeter j => exact hw

/-- A task that goes on its way without an end. -/
theorem advances_of_calm (hi : s.tasks.get? i = some t) (hweight : t'.weight = t.weight)
    (hholds : t'.holds = t.holds) (hf : t'.isFresh = t.isFresh) (hcalm : s.hub.Calm hub)
    (hown : ∀ w ∈ workersOf i, (s.putTask i t' hub links).canGo w = true → s.canGo w = true) :
    s.Advances (s.putTask i t' hub links) := by
  have hall := weight_putTask t' hub links hi
  rw [hweight, hcalm.weight] at hall
  exact ⟨by omega, Or.inr (canGo_of_calm t' hub links hi hcalm hholds hown),
    Table.keys_insert t' hi, Nat.le_refl _, fun _ h => h,
    begun_putTask t' hub links hi fun h => hf ▸ h⟩

end

/-! ### Moves -/

theorem applyNext_advances (s : Session) :
    s.Advances s.applyNext ∧ (s.hub.pending ≠ [] → s.applyNext.weight < s.weight) := by
  cases hp : s.hub.pending with
  | nil =>
    have hsame : s.applyNext = s := by
      simp only [applyNext, onHub, Hub.step_nil hp]
    rw [hsame]
    exact ⟨.refl s, fun hne => absurd rfl hne⟩
  | cons command rest =>
    have hpending : s.hub.step.pending = rest := by
      rw [Hub.step_cons hp, Hub.apply_pending]
      rfl
    have hrunning : s.hub.step.running = s.hub.running := by
      rw [Hub.step_cons hp, Hub.apply_running]
      rfl
    have hlt : s.applyNext.weight < s.weight := by
      simp only [weight, applyNext, onHub, Hub.weight, hpending, hrunning, hp, List.length_cons]
      omega
    exact ⟨⟨Nat.le_of_lt hlt, Or.inl hlt, rfl, Nat.le_refl _, fun _ h => h,
      fun _ t hi hf => ⟨t, hi, hf⟩⟩, fun _ => hlt⟩

theorem stopIfIdle_advances (s : Session) : s.Advances s.stopIfIdle ∧
    ((s.hub.running && s.hub.pending.isEmpty && !s.held) = true → s.stopIfIdle.weight < s.weight) := by
  by_cases h : (s.hub.running && s.hub.pending.isEmpty && !s.held) = true
  · have hstop : s.stopIfIdle = s.onHub Hub.stop := if_pos h
    have hlt : (s.onHub Hub.stop).weight < s.weight := by
      simp only [Bool.and_eq_true] at h
      have hempty : s.hub.stop.weight = 0 := rfl
      have hrunning : s.hub.weight = s.hub.pending.length + 1 := by simp [Hub.weight, h.1.1]
      simp only [weight, onHub, hempty, hrunning]
      omega
    rw [hstop]
    exact ⟨⟨Nat.le_of_lt hlt, Or.inl hlt, rfl, Nat.le_refl _, fun _ h => h,
      fun _ t hi hf => ⟨t, hi, hf⟩⟩, fun _ => hlt⟩
  · have hsame : s.stopIfIdle = s := if_neg h
    rw [hsame]
    exact ⟨.refl s, fun h' => absurd h' h⟩

theorem startTask_of_begun {i : Nat} {p : Pair} (hi : s.tasks.get? i = some (.paired p))
    (hf : p.stage ≠ .fresh) : s.startTask i = s := by
  have hsame : p.start = p := by
    unfold Pair.start
    split
    · rename_i hstage
      exact absurd hstage hf
    · rfl
  rw [startTask_eq hi, hsame, putTask_self hi]

theorem startTask_advances (s : Session) (i : Nat) : s.Advances (s.startTask i) ∧
    ∀ p, s.tasks.get? i = some (.paired p) → p.stage = .fresh →
      (s.startTask i).weight < s.weight := by
  by_cases hp : ∃ p, s.tasks.get? i = some (.paired p) ∧ p.stage = .fresh
  · obtain ⟨p, hi, hf⟩ := hp
    have hweight : (Task.paired p.start).weight < (Task.paired p).weight := by
      simp only [Task.weight, Pair.start, hf, Outcome.weight_start, Stage.weight]
      omega
    have hfresh : (Task.paired p).isFresh = true := by simp [Task.isFresh, hf]
    obtain ⟨hadvances, hlt⟩ := advances_of_lt (.paired p.start) s.hub s.links hi
      (fun _ => hfresh) (by omega)
    rw [startTask_eq hi]
    exact ⟨hadvances, fun _ _ _ => hlt⟩
  · have hsame : s.startTask i = s := by
      cases hi : s.tasks.get? i with
      | none => rw [startTask, hi]
      | some t =>
        cases t with
        | paired p => exact startTask_of_begun hi fun hf => hp ⟨p, hi, hf⟩
        | _ => rw [startTask, hi]
    rw [hsame]
    exact ⟨.refl s, fun p hi hf => absurd ⟨p, hi, hf⟩ hp⟩

/-- Whether the reader of a task could go on. -/
def readerReady (s : Session) (i : Nat) : Bool :=
  match (s.tasks.get? i).bind Task.reader? with
  | some r => r.canGo
  | none => false

/-- How many frames have arrived for the reader of a task. -/
def readerEffort (s : Session) (i : Nat) : Nat :=
  match (s.tasks.get? i).bind Task.reader? with
  | some r => r.arrived.length
  | none => 0

/-- A reader with as little to do as before leaves the workers of its task nothing new to do. -/
theorem canGo_setReader {i : Nat} {t : Task} (hi : s.tasks.get? i = some t) {r : Reader}
    (hr : t.reader? = some r) {r' : Reader} (ho : r'.outcome = r.outcome)
    (hread : r'.canGo = true → r.canGo = true) {hub : Hub} (hcalm : s.hub.Calm hub)
    (links : Table Nat WebSocket.Link) :
    ∀ x ∈ workersOf i, (s.putTask i (t.setReader r') hub links).canGo x = true →
      s.canGo x = true := by
  have hnow : (s.putTask i (t.setReader r') hub links).tasks.get? i = some (t.setReader r') := by
    rw [get?_putTask, if_pos rfl]
  intro x hx hgo
  simp only [workersOf, List.mem_cons, List.not_mem_nil, or_false] at hx
  cases t with
  | writing w => cases hr
  | reading r₀ =>
    cases hr
    simp only [Task.setReader] at hnow hgo
    rcases hx with rfl | rfl | rfl
    · simp only [canGo, hnow, hi, Bool.or_eq_true] at hgo ⊢
      exact hgo.imp_right hread
    · simp [canGo, hnow, Task.pair?] at hgo
    · simp [canGo, hnow, Task.pair?] at hgo
  | paired p =>
    cases hr
    simp only [Task.setReader] at hnow hgo
    rcases hx with rfl | rfl | rfl
    · simp only [canGo, hnow, hi, Pair.canGo, ho] at hgo ⊢
      exact hgo
    · simp only [canGo, hnow, hi, Option.bind_some, Task.pair?] at hgo ⊢
      exact writerCanGo_of_calm _ hub links hcalm hgo
    · simp only [canGo, hnow, hi, Option.bind_some, Task.pair?] at hgo ⊢
      exact hread hgo

/-- A reader that can go on ends, or has fewer frames to read. -/
theorem stepReader_advances (s : Session) (i : Nat) : s.Advances (s.stepReader i) ∧
    (s.readerReady i = true → (s.stepReader i).weight < s.weight ∨
      (s.stepReader i).readerEffort i < s.readerEffort i) := by
  cases hi : s.tasks.get? i with
  | none =>
    rw [stepReader, hi]
    exact ⟨.refl s, fun hgo => by simp [readerReady, hi] at hgo⟩
  | some t =>
    cases hr : t.reader? with
    | none =>
      have hsame : s.stepReader i = s := by simp only [stepReader, hi, hr]
      rw [hsame]
      exact ⟨.refl s, fun hgo => by simp [readerReady, hi, hr] at hgo⟩
    | some r =>
      rw [stepReader_eq hi hr]
      have hweight := Task.weight_setReader hr r.step.1
      obtain ⟨-, -, hcases⟩ := r.step_cases
      rcases hcases with ⟨hcommands, ho⟩ | ⟨hrunning, hcommands, ho⟩
      · have hread (hgo : r.step.1.canGo = true) : r.canGo = true := by
          by_cases hidle : r.canGo = true
          · exact hidle
          · rw [Bool.not_eq_true] at hidle
            rwa [Reader.step_of_idle hidle] at hgo
        have hcalm := s.hub.calm_logAll r.step.2.2
        rw [hcommands]
        rw [ho] at hweight
        refine ⟨advances_of_calm _ _ s.links hi (Nat.add_right_cancel hweight)
          (Task.holds_setReader hr ho) (t.isFresh_setReader _) hcalm
          (canGo_setReader hi hr ho hread hcalm s.links), fun hgo => Or.inr ?_⟩
        have hready : r.canGo = true := by simpa [readerReady, hi, hr] using hgo
        have hless := r.length_arrived_step hready ho
        simpa [readerEffort, get?_putTask, hi, hr, Task.reader?_setReader hr] using hless
      · have hended : r.step.1.outcome.weight = 0 := by
          rcases ho with ho | ⟨why, ho⟩ <;> simp [ho, Outcome.weight, Outcome.isLive]
        have hlive : r.outcome.weight = 1 := by simp [hrunning, Outcome.weight, Outcome.isLive]
        have hhub := (s.hub.logAll r.step.2.2).weight_submitAll_le r.step.2.1
        have hlogged : (s.hub.logAll r.step.2.2).weight = s.hub.weight := rfl
        rw [hlogged, hcommands, List.length_singleton, ← hcommands] at hhub
        obtain ⟨hadvances, hlt⟩ := advances_of_lt (t.setReader r.step.1)
          ((s.hub.logAll r.step.2.2).submitAll r.step.2.1) s.links hi
          (fun h => (t.isFresh_setReader _) ▸ h) (by omega)
        exact ⟨hadvances, fun _ => Or.inl hlt⟩

theorem observe_of_idle {i : Nat} {p : Pair} (hi : s.tasks.get? i = some (.paired p))
    {look : Pair → Pair × List Command × List Entry} (hlook : look p = (p, [], [])) :
    s.observe i look = s := by
  rw [observe_eq hi, hlook]
  simp only [Hub.logAll, List.append_nil, Hub.submitAll, List.foldl_nil]
  exact putTask_self hi

theorem get?_of_pair? {i : Nat} {p : Pair} (hi : (s.tasks.get? i).bind Task.pair? = some p) :
    s.tasks.get? i = some (.paired p) := by
  obtain ⟨t, ht, hp⟩ := Option.bind_eq_some_iff.mp hi
  rw [ht, Task.eq_paired hp]

theorem observe_of_unpaired {i : Nat} (hi : (s.tasks.get? i).bind Task.pair? = none)
    (look : Pair → Pair × List Command × List Entry) : s.observe i look = s := by
  unfold observe
  split
  · rename_i p hp
    rw [hp] at hi
    cases hi
  · rfl

theorem observe_advances {i : Nat} {p : Pair} (hi : s.tasks.get? i = some (.paired p))
    (look : Pair → Pair × List Command × List Entry)
    (hlook : look p = (p, [], []) ∨ (look p).1.stage ≠ .fresh ∧
      (look p).2.1.length + 2 * (Task.paired (look p).1).weight < 2 * (Task.paired p).weight) :
    s.Advances (s.observe i look) ∧
      (look p ≠ (p, [], []) → (s.observe i look).weight < s.weight) := by
  rcases hlook with hsame | ⟨hfresh, hweight⟩
  · rw [observe_of_idle hi hsame]
    exact ⟨.refl s, fun hne => absurd hsame hne⟩
  · have hhub := (s.hub.logAll (look p).2.2).weight_submitAll_le (look p).2.1
    have hlogged : (s.hub.logAll (look p).2.2).weight = s.hub.weight := rfl
    have hbegun : (Task.paired (look p).1).isFresh = false := decide_eq_false hfresh
    rw [observe_eq hi]
    obtain ⟨hadvances, hlt⟩ := advances_of_lt (.paired (look p).1)
      ((s.hub.logAll (look p).2.2).submitAll (look p).2.1) s.links hi
      (fun h => by rw [hbegun] at h; cases h) (by omega)
    exact ⟨hadvances, fun _ => hlt⟩

theorem observeReader_advances {i : Nat} {p : Pair} (hi : s.tasks.get? i = some (.paired p)) :
    s.Advances (s.observe i Pair.observeReader) ∧
      (p.stage = .watching → p.reader.outcome.isLive = false →
        (s.observe i Pair.observeReader).weight < s.weight) := by
  by_cases hgo : (p.stage = .watching && !p.reader.outcome.isLive) = true
  · have hlook : p.observeReader = ({ p with stage := .draining }, [],
        p.reader.outcome.report .reader p.connection) := if_pos hgo
    simp only [Bool.and_eq_true, decide_eq_true_eq] at hgo
    obtain ⟨hadvances, hlt⟩ := observe_advances hi Pair.observeReader <| by
      right
      simp only [hlook, Task.weight, hgo.1, Stage.weight, List.length_nil]
      refine ⟨nofun, by omega⟩
    refine ⟨hadvances, fun _ _ => hlt fun hsame => ?_⟩
    rw [hlook] at hsame
    have hstage := congrArg (fun x => x.1.stage) hsame
    rw [hgo.1] at hstage
    cases hstage
  · have hlook : p.observeReader = (p, [], []) := if_neg hgo
    refine ⟨(observe_advances hi _ (Or.inl hlook)).1, fun hs hl => ?_⟩
    simp [hs, hl] at hgo

theorem observeWriter_advances {i : Nat} {p : Pair} (hi : s.tasks.get? i = some (.paired p)) :
    s.Advances (s.observe i Pair.observeWriter) ∧
      (p.stage.guards = true → p.writer.outcome.isLive = false →
        (s.observe i Pair.observeWriter).weight < s.weight) := by
  by_cases hgo : (p.stage.guards && !p.writer.outcome.isLive) = true
  · have hstage : 1 ≤ p.stage.weight := by
      cases hs : p.stage <;> simp [hs, Stage.guards, Stage.weight] at hgo ⊢
    have hcut : (p.reader.cancel).outcome.weight ≤ p.reader.outcome.weight := by
      unfold Reader.cancel
      split
      · exact Nat.zero_le _
      · exact Nat.le_refl _
    obtain ⟨hadvances, hlt⟩ := observe_advances hi Pair.observeWriter <| by
      right
      simp only [Pair.observeWriter, if_pos hgo, Task.weight, List.length_singleton]
      have hreturned : Stage.returned.weight = 0 := rfl
      constructor
      · intro hnone
        cases hnone
      · split <;> omega
    refine ⟨hadvances, fun _ _ => hlt fun hsame => ?_⟩
    rw [Pair.observeWriter, if_pos hgo] at hsame
    cases congrArg (fun x => x.2.1) hsame
  · have hlook : p.observeWriter = (p, [], []) := if_neg hgo
    refine ⟨(observe_advances hi _ (Or.inl hlook)).1, fun hs hl => ?_⟩
    simp [hs, hl] at hgo

theorem giveUpGreeting_advances (s : Session) (i : Nat) : s.Advances (s.giveUpGreeting i) ∧
    (s.canGo (.greeter i) = true → (s.giveUpGreeting i).weight < s.weight) := by
  unfold giveUpGreeting
  split
  · rename_i c student why hi
    have hkeys := Table.length_keys_erase hi
    let hub := ((s.hub.log (.greetingFailed student c why)).unregister c).updateMailbox c
      Mailbox.abandon
    have hhub : hub.weight ≤ s.hub.weight + 1 :=
      (s.hub.log (.greetingFailed student c why)).weight_submit_le (.unregister c)
    have hlt : (s.cutGreeting i hub).weight < s.weight := by
      simp only [weight, cutGreeting]
      omega
    exact ⟨⟨Nat.le_of_lt hlt, Or.inl hlt, rfl, Nat.le_of_lt hkeys, fun _ h => h,
      fun _ t hi hf => ⟨t, hi, hf⟩⟩, fun _ => hlt⟩
  · rename_i hnone
    refine ⟨.refl s, fun hgo => ?_⟩
    simp only [canGo] at hgo
    cases hi : s.greetings.get? i with
    | none =>
      rw [hi] at hgo
      cases hgo
    | some g =>
      obtain ⟨c, student, obstacle⟩ := g
      rw [hi] at hgo
      cases obstacle with
      | none => cases hgo
      | some why => exact absurd hi (hnone c student why)

theorem cancelTask_eq {i : Nat} {t : Task} (hi : s.tasks.get? i = some t) :
    ∃ hub : Hub, hub.weight ≤ s.hub.weight + t.abort.2.length ∧ s.cancelTask i =
      { s with doomed := s.doomed.filter (· ≠ i) }.putTask i t.abort.1 hub s.links := by
  let s₀ : Session := { s with doomed := s.doomed.filter (· ≠ i) }
  have hi₀ : s₀.tasks.get? i = some t := hi
  let released := if t.owns && !t.abort.1.owns
    then s.hub.updateMailbox t.connection Mailbox.abandon else s.hub
  have hreleased : released.weight = s.hub.weight := by
    simp only [released]
    split <;> rfl
  refine ⟨released.submitAll t.abort.2, hreleased ▸ released.weight_submitAll_le t.abort.2, ?_⟩
  show s₀.replaceTask i Task.abort = _
  simp only [replaceTask, hi₀, releaseMailbox, released]
  split <;> rfl

/-- A task that was to be cancelled is cancelled once. -/
theorem cancelTask_advances {i : Nat} (hdoomed : i ∈ s.doomed) :
    s.Advances (s.cancelTask i) ∧ (s.cancelTask i).weight < s.weight := by
  let s₀ : Session := { s with doomed := s.doomed.filter (· ≠ i) }
  have hfewer : s₀.doomed.length < s.doomed.length :=
    List.length_filter_lt_length_iff_exists.mpr ⟨i, hdoomed, by simp⟩
  have hsub : ∀ j ∈ s₀.doomed, j ∈ s.doomed := fun j hj => List.mem_of_mem_filter hj
  have hfiltered : s₀.weight + 2 * s.doomed.length = s.weight + 2 * s₀.doomed.length := by
    simp only [weight, s₀]
    omega
  cases hi : s.tasks.get? i with
  | none =>
    have hcancel : s.cancelTask i = s₀ := by
      show s₀.replaceTask i Task.abort = s₀
      have hi₀ : s₀.tasks.get? i = none := hi
      simp only [replaceTask, hi₀]
    have hlt : s₀.weight < s.weight := by omega
    rw [hcancel]
    exact ⟨⟨Nat.le_of_lt hlt, Or.inl hlt, rfl, Nat.le_refl _, hsub,
      fun _ t hi hf => ⟨t, hi, hf⟩⟩, hlt⟩
  | some t =>
    have hi₀ : s₀.tasks.get? i = some t := hi
    obtain ⟨hub, hhub, hcancel⟩ := cancelTask_eq hi
    have habort := t.weight_abort
    have hweight := weight_putTask t.abort.1 hub s.links hi₀
    have hhub₀ : s₀.hub = s.hub := rfl
    rw [hhub₀] at hweight
    rw [hcancel]
    have hlt : (s₀.putTask i t.abort.1 hub s.links).weight < s.weight := by omega
    refine ⟨⟨Nat.le_of_lt hlt, Or.inl hlt, Table.keys_insert t.abort.1 hi₀, Nat.le_refl _, hsub,
      begun_putTask _ _ _ hi₀ fun h => ?_⟩, hlt⟩
    rw [t.isFresh_abort] at h
    cases h

/-- Whether the writer of a task could go on. -/
def writerReady (s : Session) (i : Nat) : Bool :=
  match (s.tasks.get? i).bind Task.writer? with
  | some w => s.writerCanGo w
  | none => false

/-- How many steps the writer of a task can still make without an end. -/
def writerEffort (s : Session) (i : Nat) : Nat :=
  match (s.tasks.get? i).bind Task.writer? with
  | some w =>
    match s.hub.mailbox? w.connection with
    | some box => w.effort box
    | none => 0
  | none => 0

/-- A task whose writer has a mailbox. -/
structure WritesTo (s : Session) (i : Nat) (t : Task) (w : Writer) (box : Mailbox) : Prop where
  task : s.tasks.get? i = some t
  writer : t.writer? = some w
  mailbox : s.hub.mailbox? w.connection = some box

/-- A writer without a mailbox does nothing. -/
theorem writer_cases (s : Session) (i : Nat) :
    s.stepWriter i = s ∧ s.writerReady i = false ∨ ∃ t w box, s.WritesTo i t w box := by
  cases hi : s.tasks.get? i with
  | none => exact Or.inl (by simp [stepWriter, writerReady, hi])
  | some t =>
    cases hw : t.writer? with
    | none => exact Or.inl (by simp [stepWriter, writerReady, hi, hw])
    | some w =>
      cases hbox : s.hub.mailbox? w.connection with
      | none =>
        left
        rw [← Task.connection_of_writer? hw] at hbox
        constructor
        · simp only [stepWriter, hi, hw, hbox]
        · rw [Task.connection_of_writer? hw] at hbox
          simp [writerReady, hi, hw, writerCanGo, hbox]
      | some box => exact Or.inr ⟨t, w, box, hi, hw, hbox⟩

section

variable {i : Nat} {t : Task} {w : Writer} {box : Mailbox}

theorem WritesTo.ready_eq (h : s.WritesTo i t w box) : s.writerReady i = w.canGo box := by
  simp only [writerReady, h.task, Option.bind_some, h.writer, writerCanGo, h.mailbox]

theorem WritesTo.effort_eq (h : s.WritesTo i t w box) : s.writerEffort i = w.effort box := by
  simp only [writerEffort, h.task, Option.bind_some, h.writer, h.mailbox]

theorem WritesTo.step_eq (h : s.WritesTo i t w box) :
    s.stepWriter i = s.putTask i (t.setWriter (w.step box).1)
      ((s.hub.updateMailbox w.connection fun _ => (w.step box).2.1).logAll (w.step box).2.2)
      s.links := by
  have hconnection := Task.connection_of_writer? h.writer
  have hbox : s.hub.mailbox? t.connection = some box := hconnection ▸ h.mailbox
  rw [stepWriter_eq h.task h.writer hbox, hconnection]

theorem WritesTo.step (h : s.WritesTo i t w box) :
    (s.stepWriter i).WritesTo i (t.setWriter (w.step box).1) (w.step box).1 (w.step box).2.1 where
  task := by rw [h.step_eq, get?_putTask, if_pos rfl]
  writer := Task.writer?_setWriter h.writer _
  mailbox := by
    rw [h.step_eq, w.step_connection box]
    exact (Hub.mailbox?_updateMailbox_const h.mailbox _ _).trans (if_pos rfl)

theorem WritesTo.step_of_idle (h : s.WritesTo i t w box) (hidle : w.canGo box = false) :
    s.stepWriter i = s := by
  have hself : (s.hub.updateMailbox w.connection fun _ => box) = s.hub := by
    have hbox := h.mailbox
    simp only [Hub.updateMailbox, Hub.mailbox?] at hbox ⊢
    rw [Table.modify_eq_insert _ hbox, Table.insert_self hbox]
  have hsame : t.setWriter w = t := by
    have hw := h.writer
    cases t with
    | reading r => cases hw
    | _ => cases hw; rfl
  rw [h.step_eq, Writer.step_of_idle hidle, hself, hsame]
  simp only [Hub.logAll, List.append_nil]
  exact putTask_self h.task

/-- A writer that cannot go on does nothing. -/
theorem stepWriter_of_idle (hidle : s.writerReady i = false) : s.stepWriter i = s := by
  rcases s.writer_cases i with ⟨hsame, -⟩ | ⟨t, w, box, h⟩
  · exact hsame
  · rw [h.ready_eq] at hidle
    exact h.step_of_idle hidle

/-- A writer with as little to do as before leaves the workers of its task nothing new to do. -/
theorem WritesTo.canGo_setWriter (h : s.WritesTo i t w box) {w' : Writer}
    (ho : w'.outcome = w.outcome) {hub : Hub} (links : Table Nat WebSocket.Link)
    (hwrite : (s.putTask i (t.setWriter w') hub links).writerCanGo w' = true →
      s.writerCanGo w = true) :
    ∀ x ∈ workersOf i, (s.putTask i (t.setWriter w') hub links).canGo x = true →
      s.canGo x = true := by
  have hnow : (s.putTask i (t.setWriter w') hub links).tasks.get? i = some (t.setWriter w') := by
    rw [get?_putTask, if_pos rfl]
  have hi := h.task
  have hw := h.writer
  intro x hx hgo
  simp only [workersOf, List.mem_cons, List.not_mem_nil, or_false] at hx
  cases t with
  | reading r => cases hw
  | writing w₀ =>
    cases hw
    simp only [Task.setWriter] at hnow hgo
    rcases hx with rfl | rfl | rfl
    · simp only [canGo, hnow, hi, Bool.or_eq_true] at hgo ⊢
      exact hgo.imp_right hwrite
    · simp [canGo, hnow, Task.pair?] at hgo
    · simp [canGo, hnow, Task.pair?] at hgo
  | paired p =>
    cases hw
    simp only [Task.setWriter] at hnow hgo
    rcases hx with rfl | rfl | rfl
    · simp only [canGo, hnow, hi, Pair.canGo, ho] at hgo ⊢
      exact hgo
    · simp only [canGo, hnow, hi, Option.bind_some, Task.pair?] at hgo ⊢
      exact hwrite hgo
    · simpa only [canGo, hnow, hi, Option.bind_some, Task.pair?] using hgo

/-- A writer that goes on its way leaves the hub calm. -/
theorem WritesTo.calm (h : s.WritesTo i t w box)
    (hintake : (w.step box).2.1.intake = box.intake) :
    s.hub.Calm ((s.hub.updateMailbox w.connection fun _ => (w.step box).2.1).logAll
      (w.step box).2.2) := by
  have hclosed : (w.step box).2.1.isClosed = box.isClosed := by
    rw [Mailbox.isClosed, w.step_attached box, hintake, Mailbox.isClosed]
  refine ⟨rfl, rfl, fun c b hb => ?_⟩
  have hb' := (Hub.mailbox?_updateMailbox_const h.mailbox (w.step box).2.1 c).symm.trans hb
  split at hb'
  · rename_i hcc
    cases hb'
    exact ⟨box, hcc ▸ h.mailbox, w.waiting_step box, hclosed⟩
  · exact ⟨b, hb', id, rfl⟩

end

/-- A writer that can go on ends, or brings its work nearer to the end. -/
theorem stepWriter_advances (s : Session) (i : Nat) : s.Advances (s.stepWriter i) ∧
    (s.writerReady i = true → (s.stepWriter i).weight < s.weight ∨
      (s.stepWriter i).writerEffort i < s.writerEffort i) := by
  rcases s.writer_cases i with ⟨hsame, hidle⟩ | ⟨t, w, box, h⟩
  · rw [hsame, hidle]
    exact ⟨.refl s, nofun⟩
  · have hweight := Task.weight_setWriter h.writer (w.step box).1
    rcases w.step_goes box with ⟨ho, hintake⟩ | ⟨hlive, hended⟩
    · have hcalm := h.calm hintake
      have hwrite (hgo : (s.stepWriter i).writerCanGo (w.step box).1 = true) :
          s.writerCanGo w = true := by
        have hready : (s.stepWriter i).writerReady i = true := by
          simpa only [writerReady, h.step.task, Option.bind_some, h.step.writer] using hgo
        have hold : s.writerReady i = true := by
          by_contra hidle
          rw [Bool.not_eq_true] at hidle
          rw [stepWriter_of_idle hidle, hidle] at hready
          cases hready
        simpa only [writerReady, h.task, Option.bind_some, h.writer] using hold
      rw [ho] at hweight
      rw [h.step_eq] at hwrite
      have hadvances := advances_of_calm _ _ s.links h.task (Nat.add_right_cancel hweight)
        (t.holds_setWriter _) (t.isFresh_setWriter _) hcalm (h.canGo_setWriter ho s.links hwrite)
      refine ⟨h.step_eq ▸ hadvances, fun hgo => Or.inr ?_⟩
      rw [h.effort_eq, h.step.effort_eq]
      rw [h.ready_eq] at hgo
      exact Writer.effort_step hgo ho
    · have hzero : (w.step box).1.outcome.weight = 0 := by simp [Outcome.weight, hended]
      have hone : w.outcome.weight = 1 := by simp [Outcome.weight, hlive]
      obtain ⟨hadvances, hlt⟩ := advances_of_lt (t.setWriter (w.step box).1)
        ((s.hub.updateMailbox w.connection fun _ => (w.step box).2.1).logAll (w.step box).2.2)
        s.links h.task (fun hf => (t.isFresh_setWriter _) ▸ hf) (by
          have hhub : ((s.hub.updateMailbox w.connection fun _ => (w.step box).2.1).logAll
            (w.step box).2.2).weight = s.hub.weight := rfl
          omega)
      rw [h.step_eq]
      exact ⟨hadvances, fun _ => Or.inl hlt⟩

/-- No move makes more to do. -/
theorem perform_advances {m : Move} (hm : ∀ i, m = .cancel i → i ∈ s.doomed) :
    s.Advances (s.perform m) := by
  cases m with
  | apply => exact s.applyNext_advances.1
  | stop => exact s.stopIfIdle_advances.1
  | start i => exact (s.startTask_advances i).1
  | write i => exact (s.stepWriter_advances i).1
  | read i => exact (s.stepReader_advances i).1
  | observeWriter i =>
    cases hi : (s.tasks.get? i).bind Task.pair? with
    | none =>
      rw [perform, observe_of_unpaired hi]
      exact .refl s
    | some p => exact (observeWriter_advances (get?_of_pair? hi)).1
  | observeReader i =>
    cases hi : (s.tasks.get? i).bind Task.pair? with
    | none =>
      rw [perform, observe_of_unpaired hi]
      exact .refl s
    | some p => exact (observeReader_advances (get?_of_pair? hi)).1
  | cancel i => exact (cancelTask_advances (hm i rfl)).1
  | giveUp i => exact (s.giveUpGreeting_advances i).1

theorem perform_advances_of_free {m : Move} (hm : m.cancels = false) :
    s.Advances (s.perform m) :=
  perform_advances fun i hi => by rw [hi] at hm; cases hm

theorem advancesAll (s : Session) {moves : List Move} (hm : ∀ m ∈ moves, m.cancels = false) :
    s.Advances (s.performAll moves) := by
  induction moves generalizing s with
  | nil => exact .refl s
  | cons m rest ih =>
    have hfirst : s.Advances (s.perform m) := perform_advances_of_free (hm m List.mem_cons_self)
    exact hfirst.trans (ih (s.perform m) fun x hx => hm x (List.mem_cons_of_mem _ hx))

end Session
end LiveUpdate
