import LiveUpdate.Session.Schedule

/-! Settling as a list of moves. Who stands in line decides which moves come next and is itself
changed by none of them. -/
namespace LiveUpdate

/-- Whether a move cuts a task off. -/
def Move.cancels : Move → Bool
  | cancel _ => true
  | _ => false

namespace Session

variable {s : Session}

/-! ### What the moves of a task are -/

/-- A task goes on as another one, and the hub with it. -/
def putTask (s : Session) (i : Nat) (t : Task) (hub : Hub) (links : Table Nat WebSocket.Link) :
    Session := { s with tasks := s.tasks.insert i t, hub, links }

theorem get?_putTask (s : Session) (i : Nat) (t : Task) (hub : Hub)
    (links : Table Nat WebSocket.Link) (j : Nat) :
    (s.putTask i t hub links).tasks.get? j = if j = i then some t else s.tasks.get? j :=
  Table.get?_insert ..

section

variable {i : Nat} {t : Task} {p : Pair}

theorem putTask_self (hi : s.tasks.get? i = some t) : s.putTask i t s.hub s.links = s := by
  rw [putTask, Table.insert_self hi]

theorem startTask_eq (hi : s.tasks.get? i = some (.paired p)) :
    s.startTask i = s.putTask i (.paired p.start) s.hub s.links := by
  rw [startTask, hi]
  rfl

theorem stepWriter_eq (hi : s.tasks.get? i = some t) {w : Writer} (hw : t.writer? = some w)
    {box : Mailbox} (hbox : s.hub.mailbox? t.connection = some box) :
    s.stepWriter i = s.putTask i (t.setWriter (w.step box).1)
      ((s.hub.updateMailbox t.connection fun _ => (w.step box).2.1).logAll (w.step box).2.2)
      s.links := by
  simp only [stepWriter, hi, hw, hbox]
  rfl

theorem stepReader_eq (hi : s.tasks.get? i = some t) {r : Reader} (hr : t.reader? = some r) :
    s.stepReader i = s.putTask i (t.setReader r.step.1)
      ((s.hub.logAll r.step.2.2).submitAll r.step.2.1) s.links := by
  simp only [stepReader, hi, hr]
  rfl

theorem observe_eq (hi : s.tasks.get? i = some (.paired p))
    (look : Pair → Pair × List Command × List Entry) :
    s.observe i look = s.putTask i (.paired (look p).1)
      ((s.hub.logAll (look p).2.2).submitAll (look p).2.1) s.links := by
  rw [observe, hi]
  rfl

end

/-! ### The line -/

/-- The session with another line. -/
def lined (s : Session) (due : List Worker) (resting : Bool) : Session := { s with due, resting }

@[simp] theorem lined_lined (due due' : List Worker) (resting resting' : Bool) :
    (s.lined due resting).lined due' resting' = s.lined due' resting' := rfl

@[simp] theorem lined_self : s.lined s.due s.resting = s := rfl

theorem replaceTask_lined (i : Nat) (cut : Task → Task × List Command) (due : List Worker)
    (resting : Bool) :
    (s.lined due resting).replaceTask i cut = (s.replaceTask i cut).lined due resting := by
  simp only [replaceTask, lined]
  cases s.tasks.get? i with
  | none => rfl
  | some task =>
    simp only [releaseMailbox]
    split <;> rfl

/-- A move neither looks at the line nor changes it. -/
theorem perform_lined (m : Move) (due : List Worker) (resting : Bool) :
    (s.lined due resting).perform m = (s.perform m).lined due resting := by
  cases m with
  | apply => rfl
  | stop =>
    have hheld : (s.lined due resting).held = s.held := rfl
    simp only [perform, stopIfIdle, hheld]
    by_cases h : (s.hub.running && s.hub.pending.isEmpty && !s.held) = true
    · rw [if_pos h]
      exact if_pos h
    · rw [if_neg h]
      exact if_neg h
  | start i =>
    simp only [perform, startTask, lined]
    split <;> rfl
  | write i =>
    simp only [perform, stepWriter, lined]
    split
    · rfl
    · split <;> rfl
  | read i =>
    simp only [perform, stepReader, lined]
    split
    · rfl
    · split <;> rfl
  | observeWriter i =>
    simp only [perform, observe, lined]
    split <;> rfl
  | observeReader i =>
    simp only [perform, observe, lined]
    split <;> rfl
  | cancel i =>
    exact replaceTask_lined (s := { s with doomed := s.doomed.filter (· ≠ i) }) i Task.abort due
      resting
  | giveUp i =>
    simp only [perform, giveUpGreeting, lined]
    split <;> rfl

theorem performAll_lined (moves : List Move) (due : List Worker) (resting : Bool) :
    (s.lined due resting).performAll moves = (s.performAll moves).lined due resting := by
  induction moves generalizing s with
  | nil => rfl
  | cons m rest ih =>
    rw [performAll, List.foldl_cons, perform_lined]
    exact ih

theorem performAll_of_lined {s' : Session} {due : List Worker} {resting : Bool}
    (h : s' = s.lined due resting) (moves : List Move) :
    ∃ due' resting', s'.performAll moves = (s.performAll moves).lined due' resting' :=
  ⟨due, resting, h ▸ performAll_lined moves due resting⟩

theorem performAll_append (first rest : List Move) :
    s.performAll (first ++ rest) = (s.performAll first).performAll rest := List.foldl_append

theorem wake_eq (s : Session) : s.wake = s.lined s.wake.due s.wake.resting := rfl

theorem resume_eq (s : Session) : s.resume = s.lined s.resume.due s.resume.resting := rfl

/-- A turn is the moves of its worker. -/
theorem turn_eq (s : Session) (w : Worker) :
    s.turn w = (s.performAll (s.moves w)).lined (s.turn w).due (s.turn w).resting := rfl

/-- The moves that are made in so many turns. -/
def turnsMoves : Nat → Session → List Move
  | 0, _ => []
  | n + 1, s =>
    match s.due with
    | [] => if s.resting then turnsMoves n s.resume else []
    | w :: rest =>
      (s.lined rest s.resting).moves w ++ turnsMoves n ((s.lined rest s.resting).turn w)

theorem turns_eq (n : Nat) (s : Session) :
    ∃ due resting, turns n s = (s.performAll (turnsMoves n s)).lined due resting := by
  induction n generalizing s with
  | zero => exact ⟨s.due, s.resting, rfl⟩
  | succ n ih =>
    rw [turns, turnsMoves]
    cases hd : s.due with
    | nil =>
      cases hr : s.resting with
      | false => exact ⟨s.due, s.resting, rfl⟩
      | true =>
        obtain ⟨due, resting, h⟩ := ih s.resume
        obtain ⟨due', resting', h'⟩ := performAll_of_lined (resume_eq s) (turnsMoves n s.resume)
        rw [h'] at h
        exact ⟨due, resting, h⟩
    | cons w rest =>
      let waiting := s.lined rest s.resting
      obtain ⟨due, resting, h⟩ := ih (waiting.turn w)
      have hmoves := performAll_lined (s := s) (waiting.moves w) rest s.resting
      have hturn := turn_eq waiting w
      rw [hmoves, lined_lined] at hturn
      obtain ⟨due', resting', h'⟩ := performAll_of_lined hturn (turnsMoves n (waiting.turn w))
      rw [h', lined_lined, ← performAll_append] at h
      exact ⟨due, resting, h⟩

/-- The moves that a session makes until it has settled. -/
def settleMoves (s : Session) : List Move := turnsMoves s.wake.patience s.wake

theorem settle_eq (s : Session) :
    ∃ due resting, s.settle = (s.performAll s.settleMoves).lined due resting := by
  obtain ⟨due, resting, h⟩ := turns_eq s.wake.patience s.wake
  obtain ⟨due', resting', h'⟩ := performAll_of_lined (wake_eq s) s.settleMoves
  rw [settleMoves] at h'
  rw [h', lined_lined] at h
  exact ⟨due, resting, h⟩

/-! ### Without cancellations -/

/-- What goes on by itself neither opens nor closes a body, and cuts nothing off unless asked. -/
theorem perform_frame {m : Move} (hm : m.cancels = false) :
    ∃ hub tasks greetings, s.perform m = { s with hub, tasks, greetings } := by
  cases m with
  | apply => exact ⟨_, _, _, rfl⟩
  | stop =>
    simp only [perform, stopIfIdle]
    split <;> exact ⟨_, _, _, rfl⟩
  | start i =>
    simp only [perform, startTask]
    split <;> exact ⟨_, _, _, rfl⟩
  | write i =>
    simp only [perform, stepWriter]
    split
    · exact ⟨_, _, _, rfl⟩
    · split <;> exact ⟨_, _, _, rfl⟩
  | read i =>
    simp only [perform, stepReader]
    split
    · exact ⟨_, _, _, rfl⟩
    · split <;> exact ⟨_, _, _, rfl⟩
  | observeWriter i =>
    simp only [perform, observe]
    split <;> exact ⟨_, _, _, rfl⟩
  | observeReader i =>
    simp only [perform, observe]
    split <;> exact ⟨_, _, _, rfl⟩
  | cancel i => cases hm
  | giveUp i =>
    simp only [perform, giveUpGreeting]
    split <;> exact ⟨_, _, _, rfl⟩

@[simp] theorem perform_doomed {m : Move} (hm : m.cancels = false) :
    (s.perform m).doomed = s.doomed := by
  obtain ⟨_, _, _, h⟩ := perform_frame (s := s) hm
  rw [h]

theorem performAll_doomed {moves : List Move} (hm : ∀ m ∈ moves, m.cancels = false) :
    (s.performAll moves).doomed = s.doomed := by
  induction moves generalizing s with
  | nil => rfl
  | cons m rest ih =>
    have hrest := ih (s := s.perform m) fun x hx => hm x (by simp [hx])
    exact hrest.trans (perform_doomed (hm m (by simp)))

/-- In its turn a worker cuts nothing off, unless it is a task that is to be cancelled. -/
theorem moves_free {w : Worker} (h : ∀ i, w = .task i → i ∉ s.doomed) :
    ∀ m ∈ s.moves w, m.cancels = false := by
  intro m hm
  cases w with
  | hub =>
    simp only [moves, hubMoves] at hm
    split at hm <;> simp at hm <;> grind [Move.cancels]
  | task i =>
    have hi : s.doomed.contains i = false := by simpa using h i rfl
    simp only [moves, hi, Bool.false_eq_true, if_false] at hm
    split at hm
    · simp only [writerMoves] at hm
      split at hm <;> simp at hm
      rw [hm]
      rfl
    · simp only [readerMoves] at hm
      split at hm <;> simp at hm
      rw [hm]
      rfl
    · simp only [List.mem_cons, List.not_mem_nil, or_false] at hm
      rcases hm with rfl | rfl | rfl <;> rfl
    · cases hm
  | writer i =>
    simp only [moves, writerMoves] at hm
    split at hm <;> simp at hm
    rw [hm]
    rfl
  | reader i =>
    simp only [moves, readerMoves] at hm
    split at hm <;> simp at hm
    rw [hm]
    rfl
  | greeter i =>
    simp only [moves, List.mem_singleton] at hm
    rw [hm]
    rfl

theorem moves_of_undoomed (h : s.doomed = []) (w : Worker) :
    ∀ m ∈ s.moves w, m.cancels = false :=
  moves_free fun i _ hi => by rw [h] at hi; cases hi

theorem turnsMoves_of_undoomed (n : Nat) (h : s.doomed = []) :
    ∀ m ∈ turnsMoves n s, m.cancels = false := by
  induction n generalizing s with
  | zero => exact fun m hm => nomatch hm
  | succ n ih =>
    rw [turnsMoves]
    cases hd : s.due with
    | nil =>
      cases hr : s.resting with
      | false => exact fun m hm => nomatch hm
      | true => exact ih (s := s.resume) h
    | cons w rest =>
      have hmoves := moves_of_undoomed (s := s.lined rest s.resting) h w
      have hafter : ((s.lined rest s.resting).turn w).doomed = [] :=
        (performAll_doomed hmoves).trans h
      intro m hm
      rcases List.mem_append.mp hm with hm | hm
      · exact hmoves m hm
      · exact ih hafter m hm

theorem settleMoves_of_undoomed (h : s.doomed = []) : ∀ m ∈ s.settleMoves, m.cancels = false :=
  turnsMoves_of_undoomed (s := s.wake) _ h

/-- What every move keeps, settling keeps. -/
theorem settle_keeps {P : Session → Prop} (hdoomed : ∀ s, P s → s.doomed = [])
    (hmove : ∀ s m, m.cancels = false → P s → P (s.perform m))
    (hlined : ∀ s due resting, P s → P (s.lined due resting)) (h : P s) : P s.settle := by
  have hall (moves : List Move) (hm : ∀ m ∈ moves, m.cancels = false) (s : Session) (h : P s) :
      P (s.performAll moves) := by
    induction moves generalizing s with
    | nil => exact h
    | cons m rest ih =>
      exact ih (fun x hx => hm x (by simp [hx])) _ (hmove s m (hm m (by simp)) h)
  obtain ⟨due, resting, hs⟩ := settle_eq s
  rw [hs]
  exact hlined _ _ _ (hall _ (settleMoves_of_undoomed (hdoomed s h)) s h)

end Session
end LiveUpdate
