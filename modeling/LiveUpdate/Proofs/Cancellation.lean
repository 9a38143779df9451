import LiveUpdate.Proofs.Departures
import LiveUpdate.Proofs.Ownership

/-! Cutting connections off. A supervisor that has begun guards its registration, and a body guards
it from the moment it is opened: whenever they are cut off, the hub is told. A supervisor that has
not begun guards nothing, and what it was to look after stays registered. -/
namespace LiveUpdate

/-! ### What is told by the way -/

theorem Reader.step_entrant? (r : Reader) : ∀ command ∈ r.step.2.1, command.entrant? = none := by
  obtain ⟨-, -, hstep⟩ := r.step_cases
  intro command hcommand
  rcases hstep with ⟨hnone, -⟩ | ⟨-, hone, -⟩
  · rw [hnone] at hcommand
    cases hcommand
  · rw [hone, List.mem_singleton] at hcommand
    rw [hcommand]
    rfl

theorem Pair.observeReader_commands (p : Pair) : p.observeReader.2.1 = [] := by
  unfold observeReader
  split <;> rfl

theorem Pair.observeWriter_entrant? (p : Pair) :
    ∀ command ∈ p.observeWriter.2.1, command.entrant? = none := by
  unfold observeWriter
  split <;> simp [Command.entrant?]

/-- A task that is cut off leaves at most a word to the hub that its connection goes. -/
theorem Task.abort_entrant? (t : Task) : ∀ command ∈ t.abort.2, command.entrant? = none := by
  cases t with
  | writing w => exact List.forall_mem_nil _
  | reading r => exact List.forall_mem_nil _
  | paired p =>
    simp only [abort, Pair.abort]
    split <;> simp [Command.entrant?]

namespace Session

variable {s : Session} {c : ConnectionId} {i : Nat}

/-- What is left to the hub of a task that is replaced. -/
theorem replaceTask_hub {t : Task} (hi : s.tasks.get? i = some t)
    (cut : Task → Task × List Command) : (s.replaceTask i cut).hub =
      (if t.owns && !(cut t).1.owns then s.hub.updateMailbox t.connection Mailbox.abandon
        else s.hub).submitAll (cut t).2 := by
  simp only [replaceTask, hi, submitAll, onHub, releaseMailbox]
  split <;> rfl

/-! ### Leaving for good -/

theorem prospect_replaceTask_of_none (h : s.hub.prospect c = none) (i : Nat) :
    (s.replaceTask i Task.abort).hub.prospect c = none := by
  cases hi : s.tasks.get? i with
  | none => rw [replaceTask, hi]; exact h
  | some t =>
    rw [replaceTask_hub hi]
    refine Hub.prospect_submitAll_of_none ?_ t.abort_entrant?
    split <;> exact h

/-- No move brings a connection back. -/
theorem prospect_move_of_none (h : s.hub.prospect c = none) (m : Move) :
    (s.perform m).hub.prospect c = none := by
  have hsubmitAll {entries : List Entry} {commands : List Command}
      (hc : ∀ command ∈ commands, command.entrant? = none) :
      ((s.hub.logAll entries).submitAll commands).prospect c = none :=
    Hub.prospect_submitAll_of_none h hc
  cases m with
  | apply => exact Hub.prospect_step.trans h
  | stop =>
    simp only [perform, stopIfIdle]
    split
    · rfl
    · exact h
  | start j =>
    simp only [perform, startTask]
    split <;> exact h
  | write j =>
    simp only [perform, stepWriter]
    split
    · exact h
    · split <;> exact h
  | read j =>
    simp only [perform, stepReader]
    split
    · exact h
    · split
      · exact h
      · exact hsubmitAll (Reader.step_entrant? _)
  | observeWriter j =>
    simp only [perform, observe]
    split
    · exact hsubmitAll (Pair.observeWriter_entrant? _)
    · exact h
  | observeReader j =>
    simp only [perform, observe]
    split
    · exact hsubmitAll (by simp [Pair.observeReader_commands])
    · exact h
  | cancel j =>
    exact prospect_replaceTask_of_none (s := { s with doomed := s.doomed.filter (· ≠ j) }) h j
  | giveUp j =>
    simp only [perform, giveUpGreeting]
    split
    · rename_i c' student why _
      have hlogged : (s.hub.log (.greetingFailed student c' why)).prospect c = none := h
      exact @Hub.prospect_submit_of_quiet _ c hlogged (.unregister c') rfl
    · exact h

theorem prospect_performAll_of_none (h : s.hub.prospect c = none) (moves : List Move) :
    (s.performAll moves).hub.prospect c = none := by
  induction moves generalizing s with
  | nil => exact h
  | cons m rest ih => exact ih (prospect_move_of_none h m)

theorem prospect_turns_of_none (h : s.hub.prospect c = none) (n : Nat) :
    (turns n s).hub.prospect c = none := by
  obtain ⟨due, resting, hturns⟩ := turns_eq n s
  rw [hturns]
  exact prospect_performAll_of_none h _

theorem prospect_settle_of_none (h : s.hub.prospect c = none) : s.settle.hub.prospect c = none :=
  prospect_turns_of_none (s := s.wake) h _

/-! ### Cutting off a supervisor -/

/-- What the cancellation of a pair is for the hub: the mailbox may go, and one word is said if
there was a guard to say it. -/
theorem cancelTask_hub {p : Pair} (hi : s.tasks.get? i = some (.paired p)) :
    ∃ mailboxes, (s.cancelTask i).hub = { s.hub with mailboxes }.submitAll
      (if p.stage.guards then [.unregister p.connection] else []) := by
  have hcommands : (Task.paired p).abort.2 =
      if p.stage.guards then [.unregister p.connection] else [] := by
    simp only [Task.abort, Pair.abort]
    cases p.stage <;> rfl
  rw [cancelTask, replaceTask_hub (s := { s with doomed := s.doomed.filter (· ≠ i) }) hi, hcommands]
  split <;> exact ⟨_, rfl⟩

theorem cancelTask_pending {p : Pair} (hr : s.hub.running = true)
    (hi : s.tasks.get? i = some (.paired p)) : (s.cancelTask i).hub.pending =
      s.hub.pending ++ if p.stage.guards then [.unregister p.connection] else [] := by
  obtain ⟨mailboxes, hhub⟩ := cancelTask_hub hi
  rw [hhub]
  split <;> simp [Hub.submitAll, Hub.submit, hr]

theorem prospect_cancelTask {p : Pair} (hr : s.hub.running = true)
    (hi : s.tasks.get? i = some (.paired p)) (hp : p.stage.guards = true) :
    (s.cancelTask i).hub.prospect p.connection = none := by
  obtain ⟨mailboxes, hhub⟩ := cancelTask_hub hi
  rw [hhub, if_pos hp]
  exact Hub.prospect_unregister hr

/-! ### Until the turn comes -/

/-- A supervisor that has begun, and is to be cut off at its next turn. -/
structure Condemned (s : Session) (i : Nat) (c : ConnectionId) : Prop where
  running : s.hub.running = true
  doomed : i ∈ s.doomed
  guarded : ∃ p, s.tasks.get? i = some (.paired p) ∧ p.stage.guards = true ∧ p.connection = c

theorem Condemned.held (h : s.Condemned i c) : s.held = true := by
  obtain ⟨p, hi, hp, -⟩ := h.guarded
  have hholds : s.tasks.values.any Task.holds = true :=
    List.any_eq_true.mpr ⟨_, Table.mem_values hi, by simp [Task.holds, Pair.holds, Pair.isLive, hp]⟩
  simp [Session.held, hholds]

/-- What leaves alone whether the loop is there, which tasks are to be cut off, and the supervisor
and the connection of a task. -/
theorem Condemned.of_eq {s' : Session} (h : s.Condemned i c)
    (hrunning : s'.hub.running = s.hub.running) (hdoomed : i ∈ s'.doomed)
    (htask : ∀ p, s.tasks.get? i = some (.paired p) →
      ∃ p', s'.tasks.get? i = some (.paired p') ∧ p'.stage = p.stage ∧
        p'.connection = p.connection) : s'.Condemned i c := by
  obtain ⟨p, hi, hp, hc⟩ := h.guarded
  obtain ⟨p', hi', hstage, hconnection⟩ := htask p hi
  exact ⟨hrunning.trans h.running, hdoomed, p', hi', hstage ▸ hp, hconnection.trans hc⟩

/-- The supervisor of a task does something, or is cut off. -/
def supervises (i : Nat) : Move → Bool
  | .start j | .observeWriter j | .observeReader j | .cancel j => j = i
  | _ => false

/-- Whatever is done by others, one who is to be cut off keeps the guard until then. -/
theorem Condemned.perform (h : s.Condemned i c) {m : Move} (hm : supervises i m = false) :
    (s.perform m).Condemned i c := by
  have hother {j : Nat} (hj : i ≠ j) (t : Task) (p : Pair)
      (hi : s.tasks.get? i = some (.paired p)) :
      ∃ p', (s.tasks.insert j t).get? i = some (.paired p') ∧ p'.stage = p.stage ∧
        p'.connection = p.connection := by
    rw [Table.get?_insert, if_neg hj]
    exact ⟨p, hi, rfl, rfl⟩
  have hstays (p : Pair) (hi : s.tasks.get? i = some (.paired p)) :
      ∃ p', s.tasks.get? i = some (.paired p') ∧ p'.stage = p.stage ∧
        p'.connection = p.connection := ⟨p, hi, rfl, rfl⟩
  cases m with
  | apply => exact h.of_eq Hub.step_running h.doomed hstays
  | stop =>
    simp only [Session.perform, stopIfIdle, h.held, Bool.not_true, Bool.and_false]
    exact h
  | start j =>
    have hj : i ≠ j := by simpa [supervises, eq_comm] using hm
    simp only [Session.perform, startTask]
    split
    · exact h.of_eq rfl h.doomed (hother hj _)
    · exact h
  | write j =>
    simp only [Session.perform, stepWriter]
    split
    · exact h
    · rename_i t ht
      split
      · rename_i w box hw hbox
        refine h.of_eq rfl h.doomed fun p hi => ?_
        by_cases hj : i = j
        · subst hj
          obtain rfl : t = .paired p := Option.some.inj (ht.symm.trans hi)
          obtain rfl : p.writer = w := Option.some.inj hw
          simp only [Table.get?_insert, if_true, Task.setWriter]
          exact ⟨_, rfl, rfl, Writer.step_connection _ _⟩
        · exact hother hj _ p hi
      · exact h
  | read j =>
    simp only [Session.perform, stepReader]
    split
    · exact h
    · rename_i t ht
      split
      · exact h
      · rename_i r hr
        refine h.of_eq (Hub.submitAll_running _) h.doomed fun p hi => ?_
        by_cases hj : i = j
        · subst hj
          obtain rfl : t = .paired p := Option.some.inj (ht.symm.trans hi)
          simp only [Table.get?_insert, if_true, Task.setReader]
          exact ⟨_, rfl, rfl, rfl⟩
        · exact hother hj _ p hi
  | observeWriter j | observeReader j =>
    have hj : i ≠ j := by simpa [supervises, eq_comm] using hm
    simp only [Session.perform, observe]
    split
    · exact h.of_eq (Hub.submitAll_running _) h.doomed (hother hj _)
    · exact h
  | cancel j =>
    have hj : i ≠ j := by simpa [supervises, eq_comm] using hm
    have hdoomed : i ∈ s.doomed.filter (· ≠ j) := List.mem_filter.mpr ⟨h.doomed, by simpa using hj⟩
    simp only [Session.perform, cancelTask, replaceTask]
    split
    · exact h.of_eq rfl hdoomed hstays
    · simp only [releaseMailbox]
      split
      · exact h.of_eq (Hub.submitAll_running _) hdoomed (hother hj _)
      · exact h.of_eq (Hub.submitAll_running _) hdoomed (hother hj _)
  | giveUp j =>
    simp only [Session.perform, giveUpGreeting]
    split
    · refine h.of_eq ?_ h.doomed hstays
      exact Hub.submit_running _
    · exact h

theorem Condemned.performAll (h : s.Condemned i c) {moves : List Move}
    (hm : ∀ m ∈ moves, supervises i m = false) : (s.performAll moves).Condemned i c := by
  induction moves generalizing s with
  | nil => exact h
  | cons m rest ih =>
    exact ih (h.perform (hm m List.mem_cons_self)) fun m' hm' => hm m' (List.mem_cons_of_mem _ hm')

/-- Only in its own turn a supervisor does something or is cut off. -/
theorem supervises_moves (s : Session) {w : Worker} (hw : w ≠ .task i) :
    ∀ m ∈ s.moves w, supervises i m = false := by
  have hwrites (j : Nat) : ∀ m ∈ s.writerMoves j, supervises i m = false := by
    intro m hm
    simp only [writerMoves] at hm
    split at hm <;> simp at hm
    rw [hm]
    rfl
  have hreads (j : Nat) : ∀ m ∈ s.readerMoves j, supervises i m = false := by
    intro m hm
    simp only [readerMoves] at hm
    split at hm <;> simp at hm
    rw [hm]
    rfl
  intro m hm
  cases w with
  | hub =>
    simp only [moves, hubMoves] at hm
    split at hm <;> simp at hm <;> grind [supervises]
  | task j =>
    have hj : j ≠ i := fun he => hw (congrArg Worker.task he)
    simp only [moves] at hm
    split at hm
    · simp only [List.mem_singleton] at hm
      simp [hm, supervises, hj]
    · split at hm
      · exact hwrites j m hm
      · exact hreads j m hm
      · simp only [List.mem_cons, List.not_mem_nil, or_false] at hm
        rcases hm with rfl | rfl | rfl <;> simp [supervises, hj]
      · cases hm
  | writer j => exact hwrites j m hm
  | reader j => exact hreads j m hm
  | greeter j =>
    simp only [moves, List.mem_singleton] at hm
    rw [hm]
    rfl

/-- A turn leaves those who stand in line where they are. -/
theorem turn_due (s : Session) (w : Worker) :
    ∃ more, (s.turn w).due = (s.performAll (s.moves w)).due ++ more :=
  ⟨_, List.append_assoc ..⟩

/-- One who is to be cut off and stands in line is cut off when the turn comes. -/
theorem Condemned.turns (h : s.Condemned i c) {n : Nat} {first rest : List Worker}
    (hd : s.due = first ++ .task i :: rest) (hn : first.length < n) :
    (turns n s).hub.prospect c = none := by
  induction n generalizing s first rest with
  | zero => exact absurd hn (Nat.not_lt_zero _)
  | succ n ih =>
    have hcut (line : List Worker) (hline : s.due = .task i :: line) :
        (Session.turns (n + 1) s).hub.prospect c = none := by
      obtain ⟨p, hi, hp, rfl⟩ := h.guarded
      have hmoves : (s.lined line s.resting).moves (.task i) = [.cancel i] := by
        have hcontains : s.doomed.contains i = true := List.contains_iff_mem.mpr h.doomed
        exact if_pos hcontains
      simp only [Session.turns, hline]
      refine prospect_turns_of_none (s := (s.lined line s.resting).turn (.task i)) ?_ n
      rw [turn_eq, hmoves]
      exact prospect_cancelTask (s := s.lined line s.resting) h.running hi hp
    cases first with
    | nil => exact hcut rest hd
    | cons w first =>
      by_cases hw : w = .task i
      · subst hw
        exact hcut _ hd
      · have hline : s.due = w :: (first ++ .task i :: rest) := hd
        let waiting := s.lined (first ++ .task i :: rest) s.resting
        have hwaiting : waiting.Condemned i c := ⟨h.running, h.doomed, h.guarded⟩
        have hafter := hwaiting.performAll (supervises_moves waiting hw)
        have hdue : (waiting.performAll (waiting.moves w)).due = first ++ .task i :: rest :=
          (performAll_line _).1
        simp only [Session.turns, hline]
        obtain ⟨more, hmore⟩ := turn_due waiting w
        rw [hdue, List.append_assoc] at hmore
        exact ih (s := waiting.turn w) ⟨hafter.running, hafter.doomed, hafter.guarded⟩ hmore
          (Nat.lt_of_succ_lt_succ hn)

/-- One who is to be cut off has been by the time the session has settled. -/
theorem Condemned.settle (h : s.Condemned i c) : s.settle.hub.prospect c = none := by
  obtain ⟨p, hi, -, -⟩ := h.guarded
  have hgo : s.canGo (.task i) = true := by
    have hcontains : s.doomed.contains i = true := List.contains_iff_mem.mpr h.doomed
    simp only [canGo, hcontains, Bool.true_or]
  have hworker : Worker.task i ∈ s.workers := by
    have hkey : i ∈ s.tasks.keys := (s.tasks.mem_keys_iff i).mpr (by rw [hi]; rfl)
    refine List.mem_append_left _ (List.mem_cons_of_mem _ ?_)
    exact List.mem_flatMap.mpr ⟨i, hkey, by simp⟩
  have hdue : Worker.task i ∈ s.wake.due := by
    by_cases hline : Worker.task i ∈ s.due
    · exact List.mem_append_left _ hline
    · refine List.mem_append_right _ (List.mem_filter.mpr ⟨hworker, ?_⟩)
      simp [hgo, hline]
  obtain ⟨first, rest, hsplit⟩ := List.append_of_mem hdue
  have hlength : first.length < s.wake.patience := by
    have hall : s.wake.due.length = first.length + (rest.length + 1) := by
      rw [hsplit, List.length_append, List.length_cons]
    simp only [patience]
    omega
  have hwoken : s.wake.Condemned i c := ⟨h.running, h.doomed, h.guarded⟩
  exact hwoken.turns hsplit hlength

/-! ### Cutting off -/

theorem closeStream_hub {stream : Stream} (hi : s.streams.get? i = some stream) :
    (s.closeStream i).hub = (s.hub.updateMailbox stream.connection Mailbox.abandon).unregister
      stream.connection := by
  rw [closeStream, hi]
  rfl

theorem abort_of_live {t : Task} (hi : s.tasks.get? i = some t) (hl : t.isLive = true) :
    s.abort i = { s with doomed := i :: s.doomed } := by
  rw [abort, hi]
  exact if_pos hl

/-- Whenever a supervisor that has begun is cut off, and whenever a body is closed, the hub is told
that the connection goes; when the session has settled and the hub has caught up, the connection is
not in the table. A supervisor that has not begun is the one exception: then the hub is told
nothing. -/
theorem cancellation_reaches_hub (hr : s.hub.running = true) :
    (∀ i p, s.tasks.get? i = some (.paired p) → p.isLive = true →
      (s.cancelTask i).hub.pending =
          s.hub.pending ++ (if p.stage = .fresh then [] else [.unregister p.connection]) ∧
        (p.stage ≠ .fresh →
          (s.abort i).settle.hub.catchUp.registry.audiences.get? p.connection = none ∧
          (i ∈ s.doomed → s.settle.hub.catchUp.registry.audiences.get? p.connection = none))) ∧
    ∀ i stream, s.streams.get? i = some stream →
      (s.closeStream i).hub.pending = s.hub.pending ++ [.unregister stream.connection] ∧
        (s.closeStream i).settle.hub.catchUp.registry.audiences.get? stream.connection = none := by
  refine ⟨fun i p hi hl => ?_, fun i stream hi => ⟨?_, ?_⟩⟩
  · have hguards : p.stage.guards = !decide (p.stage = .fresh) := by
      rw [Pair.isLive] at hl
      cases hs : p.stage <;> simp [hs, Stage.guards] at hl ⊢
    refine ⟨?_, fun hbegun => ?_⟩
    · rw [cancelTask_pending hr hi, hguards]
      by_cases hs : p.stage = .fresh <;> simp [hs]
    · have hcondemned (doomed : List Nat) (hd : i ∈ doomed) :
          ({ s with doomed } : Session).Condemned i p.connection :=
        ⟨hr, hd, p, hi, by simp [hguards, hbegun], rfl⟩
      constructor
      · rw [Hub.audiences_catchUp, abort_of_live hi hl]
        exact (hcondemned (i :: s.doomed) List.mem_cons_self).settle
      · intro hd
        rw [Hub.audiences_catchUp]
        exact (hcondemned s.doomed hd).settle
  · rw [closeStream_hub hi]
    simp [Hub.unregister, Hub.submit, Hub.updateMailbox, hr]
  · rw [Hub.audiences_catchUp]
    refine prospect_settle_of_none ?_
    rw [closeStream_hub hi]
    exact Hub.prospect_unregister hr

/-- A supervisor that watches its pumps is cut off, while an event is still to be written. -/
theorem cancellation_reaches_hub_student :
    let opened := ((start 8 (by decide)).register (.student 5)).2
    let watched := (opened.runPair ⟨0⟩ .json { Sink.plain with ready := false }).2.settle
    let busy := (watched.broadcast "notify" "x").2.settle
    busy.hub.running = true ∧ busy.hub.delivered = 1 ∧ busy.Registered ⟨0⟩ ∧
      (∃ p, busy.tasks.get? 0 = some (.paired p) ∧ p.isLive = true ∧ p.stage ≠ .fresh) ∧
      (busy.abort 0).settle.hub.catchUp.registry.audiences.get? ⟨0⟩ = none := by
  intro opened watched busy
  have hr : busy.hub.running = true := by decide +kernel
  have hpair : ((busy.tasks.get? 0).bind Task.pair?).map
      (fun p => (p.stage, p.connection)) = some (.watching, ⟨0⟩) := by decide +kernel
  obtain ⟨p, hp, hstage⟩ := Option.map_eq_some_iff.mp hpair
  obtain ⟨t, hi, ht⟩ := Option.bind_eq_some_iff.mp hp
  obtain ⟨hs, hc⟩ := Prod.mk.inj hstage
  have hbegun : p.stage ≠ .fresh := by rw [hs]; decide
  have hl : p.isLive = true := by rw [Pair.isLive, hs]; rfl
  rw [Task.eq_paired ht] at hi
  have hgone := (((cancellation_reaches_hub hr).1 0 p hi hl).2 hbegun).1
  rw [hc] at hgone
  have hregistered : (busy.hub.registry.audiences.get? ⟨0⟩).isSome = true := by decide +kernel
  exact ⟨hr, by decide +kernel, hregistered, ⟨p, hi, hl, hbegun⟩, hgone⟩

/-- A supervisor is cut off before its first turn: it leaves a registration to which nobody
listens. -/
theorem registered_after_early_cancellation :
    let opened := ((start 8 (by decide)).register (.student 5)).2
    let spawned := (opened.runPair ⟨0⟩ .json .plain).2
    let cut := (spawned.abort 0).settle
    spawned.hub.running = true ∧
      (∃ p, spawned.tasks.get? 0 = some (.paired p) ∧ p.isLive = true ∧ p.connection = ⟨0⟩) ∧
      cut.hub.running = true ∧ cut.due = [] ∧ cut.hub.pending = [] ∧
      ¬cut.hub.catchUp.registry.audiences.get? ⟨0⟩ = none := by
  intro opened spawned cut
  exact ⟨rfl, ⟨_, rfl, rfl, rfl⟩, by decide +kernel, by decide +kernel, by decide +kernel,
    by decide +kernel⟩

end Session
end LiveUpdate
