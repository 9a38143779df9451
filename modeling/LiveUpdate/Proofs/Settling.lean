import LiveUpdate.Proofs.Progress

/-! Settling ends, and ends at rest, whatever the session. A turn lowers what is left to be done, or
wakes nobody and leaves its worker with nothing to do. -/
namespace LiveUpdate.Session

variable {s s' : Session}

/-- The session has come to rest: nobody stands in line, and nobody could go on. -/
structure Settled (s : Session) : Prop where
  due : s.due = []
  resting : s.resting = false
  idle : ∀ w, s.canGo w = false

/-- A task that has not begun stands in line. -/
def Begun (s : Session) : Prop :=
  ∀ i t, s.tasks.get? i = some t → t.isFresh = true → .task i ∈ s.due

/-- Whoever could go on stands in line. -/
def Alert (s : Session) : Prop := ∀ w, s.canGo w = true → w ∈ s.due

/-! ### Turns -/

/-- A worker has made all the moves it can, or got something done for good. -/
def Spent (s s' : Session) (w : Worker) : Prop := s'.weight < s.weight ∨ s'.canGo w = false

theorem Spent.of_lt_or {w : Worker} (hadvances : s.Advances s')
    (h : s.canGo w = true → s'.weight < s.weight) : Spent s s' w := by
  by_cases hgo : s.canGo w = true
  · exact Or.inl (h hgo)
  · rcases hadvances.quiet with hlt | hquiet
    · exact Or.inl hlt
    · exact Or.inr (Bool.eq_false_iff.mpr fun hgo' => hgo (hquiet w hgo'))

/-- A move that brings the work of its worker nearer to the end each time it is made. -/
theorem spent_of_repeat {m : Move} (hm : m.cancels = false) {w : Worker} (effort : Session → Nat)
    {P : Session → Prop} (hkeeps : ∀ s, P s → P (s.perform m))
    (hprogress : ∀ s, P s → s.canGo w = true →
      (s.perform m).weight < s.weight ∨ effort (s.perform m) < effort s)
    {n : Nat} (h : P s) (hn : effort s < n) : Spent s (s.performAll (List.replicate n m)) w := by
  induction n generalizing s with
  | zero => omega
  | succ n ih =>
    rw [List.replicate_succ]
    show Spent s ((s.perform m).performAll (List.replicate n m)) w
    have hmoves : ∀ x ∈ List.replicate n m, x.cancels = false := by
      intro x hx
      rwa [(List.mem_replicate.mp hx).2]
    have hfirst : s.Advances (s.perform m) := perform_advances_of_free hm
    have hrest := (s.perform m).advancesAll hmoves
    by_cases hgo : s.canGo w = true
    · rcases hprogress s h hgo with hlt | heffort
      · exact Or.inl (Nat.lt_of_le_of_lt hrest.weight hlt)
      · rcases ih (hkeeps s h) (by omega) with hlt | hidle
        · exact Or.inl (Nat.lt_of_lt_of_le hlt hfirst.weight)
        · exact Or.inr hidle
    · exact .of_lt_or (hfirst.trans hrest) fun hgo' => absurd hgo' hgo

/-- A writer makes so many steps in its turn that none is left that it could make. -/
theorem writerMoves_spent {P : Session → Prop} {i : Nat} {w : Worker}
    (hkeeps : ∀ s, P s → P (s.stepWriter i))
    (hready : ∀ s, P s → s.canGo w = true → s.writerReady i = true) (h : P s) :
    Spent s (s.performAll (s.writerMoves i)) w := by
  rcases s.writer_cases i with ⟨-, hidle⟩ | ⟨t, x, box, hwrites⟩
  · have hmoves : ∀ m ∈ s.writerMoves i, m.cancels = false := by
      intro m hm
      simp only [writerMoves] at hm
      split at hm <;> simp at hm
      rw [hm]
      rfl
    exact .of_lt_or (s.advancesAll hmoves) fun hgo => by
      rw [hready s h hgo] at hidle
      cases hidle
  · have hbox := hwrites.mailbox
    rw [← Task.connection_of_writer? hwrites.writer] at hbox
    have hmoves : s.writerMoves i = List.replicate (2 * box.waiting.length + 2) (.write i) := by
      simp only [writerMoves, hwrites.task, Option.bind_some, hbox]
    have heffort : s.writerEffort i < 2 * box.waiting.length + 2 := by
      rw [hwrites.effort_eq, Writer.effort]
      split <;> omega
    rw [hmoves]
    exact spent_of_repeat (m := .write i) rfl (writerEffort · i) hkeeps
      (fun s hs hgo => (s.stepWriter_advances i).2 (hready s hs hgo)) h heffort

/-- A reader makes so many steps in its turn that none is left that it could make. -/
theorem readerMoves_spent {P : Session → Prop} {i : Nat} {w : Worker}
    (hkeeps : ∀ s, P s → P (s.stepReader i))
    (hready : ∀ s, P s → s.canGo w = true → s.readerReady i = true) (h : P s) :
    Spent s (s.performAll (s.readerMoves i)) w := by
  cases hi : (s.tasks.get? i).bind Task.reader? with
  | none =>
    have hmoves : s.readerMoves i = [] := by simp only [readerMoves, hi]
    rw [hmoves]
    refine .of_lt_or (.refl s) fun hgo => ?_
    have hnot := hready s h hgo
    simp only [readerReady, hi] at hnot
    cases hnot
  | some r =>
    have hmoves : s.readerMoves i = List.replicate (r.arrived.length + 1) (.read i) := by
      simp only [readerMoves, hi]
    have heffort : s.readerEffort i < r.arrived.length + 1 := by
      simp only [readerEffort, hi]
      exact Nat.lt_succ_self _
    rw [hmoves]
    exact spent_of_repeat (m := .read i) rfl (readerEffort · i) hkeeps
      (fun s hs hgo => (s.stepReader_advances i).2 (hready s hs hgo)) h heffort

theorem writerReady_of_canGo (s : Session) (i : Nat) (hgo : s.canGo (.writer i) = true) :
    s.writerReady i = true := by
  simp only [canGo] at hgo
  cases hi : (s.tasks.get? i).bind Task.pair? with
  | none =>
    rw [hi] at hgo
    cases hgo
  | some p =>
    rw [hi] at hgo
    simpa only [writerReady, get?_of_pair? hi, Option.bind_some, Task.writer?] using hgo

theorem readerReady_of_canGo (s : Session) (i : Nat) (hgo : s.canGo (.reader i) = true) :
    s.readerReady i = true := by
  simp only [canGo] at hgo
  cases hi : (s.tasks.get? i).bind Task.pair? with
  | none =>
    rw [hi] at hgo
    cases hgo
  | some p =>
    rw [hi] at hgo
    simpa only [readerReady, get?_of_pair? hi, Option.bind_some, Task.reader?] using hgo

theorem lt_performAll {m : Move} {rest : List Move} (hm : ∀ x ∈ rest, x.cancels = false)
    (hlt : (s.perform m).weight < s.weight) : (s.performAll (m :: rest)).weight < s.weight :=
  Nat.lt_of_le_of_lt ((s.perform m).advancesAll hm).weight hlt

theorem hub_spent (s : Session) : Spent s (s.performAll s.hubMoves) .hub ∧
    (s.rests .hub = true → (s.performAll s.hubMoves).weight < s.weight) := by
  have hmoves : ∀ m ∈ s.hubMoves, m.cancels = false :=
    moves_free (s := s) (w := .hub) fun i hi => by cases hi
  have hlt (hp : s.hub.pending ≠ []) : (s.performAll s.hubMoves).weight < s.weight := by
    have hfirst := s.applyNext_advances.2 hp
    obtain ⟨rest, hrest⟩ : ∃ rest, s.hubMoves = .apply :: rest := by
      obtain ⟨command, rest, hcons⟩ := List.exists_cons_of_ne_nil hp
      unfold hubMoves
      split
      · exact ⟨rest.map (fun _ => .apply) ++ [.stop], by rw [hcons]; rfl⟩
      · exact ⟨List.replicate 127 .apply, rfl⟩
    rw [hrest] at hmoves ⊢
    exact lt_performAll (fun m hm => hmoves m (List.mem_cons_of_mem _ hm)) hfirst
  constructor
  · refine .of_lt_or (s.advancesAll hmoves) fun hgo => ?_
    by_cases hp : s.hub.pending = []
    · -- Nothing is pending, so that the turn of the loop is its end.
      have honly : s.hubMoves = [.stop] := by simp [hubMoves, hp, share]
      have hidle : (s.hub.running && s.hub.pending.isEmpty && !s.held) = true := by
        simp only [canGo, hp, List.isEmpty_nil, Bool.not_true, Bool.false_or,
          Bool.and_eq_true] at hgo
        simp [hp, hgo.1.1, hgo.2]
      rw [honly]
      exact s.stopIfIdle_advances.2 hidle
    · exact hlt hp
  · intro hrests
    refine hlt fun hp => ?_
    simp [rests, hp, share] at hrests

theorem supervisor_spent {i : Nat} {p : Pair} (hi : s.tasks.get? i = some (.paired p))
    (hfree : i ∉ s.doomed) :
    Spent s (s.performAll [.start i, .observeReader i, .observeWriter i]) (.task i) ∧
      (p.stage = .fresh →
        (s.performAll [.start i, .observeReader i, .observeWriter i]).weight < s.weight) := by
  have hcancels : ∀ m ∈ [Move.start i, .observeReader i, .observeWriter i], m.cancels = false := by
    simp [Move.cancels]
  have hfresh (hf : p.stage = .fresh) :
      (s.performAll [.start i, .observeReader i, .observeWriter i]).weight < s.weight :=
    lt_performAll (fun m hm => hcancels m (List.mem_cons_of_mem _ hm))
      ((s.startTask_advances i).2 p hi hf)
  refine ⟨.of_lt_or (s.advancesAll hcancels) fun hgo => ?_, hfresh⟩
  by_cases hf : p.stage = .fresh
  · exact hfresh hf
  · have hrest : s.performAll [.start i, .observeReader i, .observeWriter i] =
        (s.observe i Pair.observeReader).observe i Pair.observeWriter := by
      show ((s.startTask i).observe i Pair.observeReader).observe i Pair.observeWriter = _
      rw [startTask_of_begun hi hf]
    rw [hrest]
    by_cases hreader : (p.stage = .watching && !p.reader.outcome.isLive) = true
    · simp only [Bool.and_eq_true, decide_eq_true_eq, Bool.not_eq_true'] at hreader
      have hlt := (observeReader_advances hi).2 hreader.1 hreader.2
      have hadvances : (s.observe i Pair.observeReader).Advances
          ((s.observe i Pair.observeReader).observe i Pair.observeWriter) :=
        perform_advances_of_free (m := .observeWriter i) rfl
      exact Nat.lt_of_le_of_lt hadvances.weight hlt
    · have hlook : p.observeReader = (p, [], []) := if_neg hreader
      have hwriter : p.stage.guards = true ∧ p.writer.outcome.isLive = false := by
        have hpair : p.canGo = true := by simpa [canGo, hi, hfree] using hgo
        rw [Bool.not_eq_true] at hreader
        simpa [Pair.canGo, hreader] using hpair
      rw [observe_of_idle hi hlook]
      exact (observeWriter_advances hi).2 hwriter.1 hwriter.2

theorem doomed_spent {i : Nat} (hi : i ∈ s.doomed) :
    s.Advances (s.performAll (s.moves (.task i))) ∧
      (s.performAll (s.moves (.task i))).weight < s.weight := by
  have hmoves : s.moves (.task i) = [.cancel i] := by simp [moves, hi]
  rw [hmoves]
  exact cancelTask_advances hi

theorem task_spent {i : Nat} (hfree : i ∉ s.doomed) :
    Spent s (s.performAll (s.moves (.task i))) (.task i) ∧
      (s.spawned (.task i) ≠ [] → (s.performAll (s.moves (.task i))).weight < s.weight) := by
  have hcontains : s.doomed.contains i = false := by simpa using hfree
  cases hi : s.tasks.get? i with
  | none =>
    have hmoves : s.moves (.task i) = [] := by simp [moves, hfree, hi]
    rw [hmoves]
    exact ⟨Or.inr (by simp [performAll, canGo, hi, hfree]), fun h => by simp [spawned, hi] at h⟩
  | some t =>
    cases t with
    | writing w =>
      have hmoves : s.moves (.task i) = s.writerMoves i := by simp [moves, hfree, hi]
      rw [hmoves]
      refine ⟨?_, fun h => by simp [spawned, hi] at h⟩
      -- The task stays one that only writes, and is not to be cancelled.
      refine writerMoves_spent (P := fun s => s.doomed.contains i = false ∧
        ∃ w, s.tasks.get? i = some (.writing w)) ?_ ?_ ⟨hcontains, w, hi⟩
      · rintro s ⟨hdoomed, w, hi⟩
        have hsame : (s.stepWriter i).doomed = s.doomed := perform_doomed (m := .write i) rfl
        refine ⟨hsame ▸ hdoomed, ?_⟩
        rcases s.writer_cases i with ⟨hidle, -⟩ | ⟨t, x, box, hwrites⟩
        · exact ⟨w, hidle.symm ▸ hi⟩
        · have ht := hwrites.task
          rw [hi] at ht
          cases ht
          exact ⟨_, hwrites.step.task⟩
      · rintro s ⟨hdoomed, w, hi⟩ hgo
        simpa only [canGo, hdoomed, hi, Bool.false_or, writerReady, Option.bind_some,
          Task.writer?] using hgo
    | reading r =>
      have hmoves : s.moves (.task i) = s.readerMoves i := by simp [moves, hfree, hi]
      rw [hmoves]
      refine ⟨?_, fun h => by simp [spawned, hi] at h⟩
      -- The task stays one that only reads, and is not to be cancelled.
      refine readerMoves_spent (P := fun s => s.doomed.contains i = false ∧
        ∃ r, s.tasks.get? i = some (.reading r)) ?_ ?_ ⟨hcontains, r, hi⟩
      · rintro s ⟨hdoomed, r, hi⟩
        have hsame : (s.stepReader i).doomed = s.doomed := perform_doomed (m := .read i) rfl
        refine ⟨hsame ▸ hdoomed, r.step.1, ?_⟩
        rw [stepReader_eq hi rfl, get?_putTask, if_pos rfl]
        rfl
      · rintro s ⟨hdoomed, r, hi⟩ hgo
        simpa only [canGo, hdoomed, hi, Bool.false_or, readerReady, Option.bind_some,
          Task.reader?] using hgo
    | paired p =>
      have hmoves : s.moves (.task i) = [.start i, .observeReader i, .observeWriter i] := by
        simp [moves, hfree, hi]
      rw [hmoves]
      obtain ⟨hspent, hfresh⟩ := supervisor_spent hi hfree
      refine ⟨hspent, fun hspawned => hfresh ?_⟩
      by_contra hf
      simp [spawned, hi, hf] at hspawned

/-- In its turn a worker makes all the moves it can. -/
theorem spent (s : Session) (w : Worker) : s.Advances (s.performAll (s.moves w)) ∧
    Spent s (s.performAll (s.moves w)) w ∧
    (s.spawned w ≠ [] ∨ s.rests w = true → (s.performAll (s.moves w)).weight < s.weight) := by
  by_cases hdoomed : ∃ i, w = .task i ∧ i ∈ s.doomed
  · obtain ⟨i, rfl, hi⟩ := hdoomed
    obtain ⟨hadvances, hlt⟩ := doomed_spent hi
    exact ⟨hadvances, Or.inl hlt, fun _ => hlt⟩
  · have hfree : ∀ i, w = .task i → i ∉ s.doomed := fun i hw hi => hdoomed ⟨i, hw, hi⟩
    have hadvances := s.advancesAll (moves_free hfree)
    refine ⟨hadvances, ?_⟩
    cases w with
    | hub => exact ⟨s.hub_spent.1, fun hc => hc.elim (fun hne => absurd rfl hne) s.hub_spent.2⟩
    | task i =>
      have htask := task_spent (hfree i rfl)
      exact ⟨htask.1, fun hc => hc.elim htask.2 nofun⟩
    | writer i =>
      refine ⟨?_, fun hc => hc.elim (fun hne => absurd rfl hne) nofun⟩
      exact writerMoves_spent (P := fun _ => True) (fun _ _ => trivial)
        (fun s _ => s.writerReady_of_canGo i) trivial
    | reader i =>
      refine ⟨?_, fun hc => hc.elim (fun hne => absurd rfl hne) nofun⟩
      exact readerMoves_spent (P := fun _ => True) (fun _ _ => trivial)
        (fun s _ => s.readerReady_of_canGo i) trivial
    | greeter i =>
      have hgreeting := (s.giveUpGreeting_advances i).2
      exact ⟨.of_lt_or hadvances hgreeting, fun hc => hc.elim (fun hne => absurd rfl hne) nofun⟩

/-! ### The line -/

theorem performAll_line (moves : List Move) :
    (s.performAll moves).due = s.due ∧ (s.performAll moves).resting = s.resting := by
  have h := performAll_lined (s := s) moves s.due s.resting
  rw [lined_self] at h
  rw [h]
  exact ⟨rfl, rfl⟩

theorem Tidy.mem_workers (h : s.Tidy) {w : Worker} (hgo : s.canGo w = true) : w ∈ s.workers := by
  have htask (i : Nat) (hkey : i ∈ s.tasks.keys) (w : Worker)
      (hw : w ∈ [Worker.writer i, .reader i, .task i]) : w ∈ s.workers := by
    have hmem := (List.mem_flatMap (f := fun i => [Worker.writer i, .reader i, .task i])).mpr
      ⟨i, hkey, hw⟩
    exact List.mem_append_left _ (List.mem_cons_of_mem _ hmem)
  cases w with
  | hub => exact List.mem_append_left _ (List.mem_cons_self ..)
  | task i =>
    refine htask i ?_ _ (by simp)
    by_cases hi : i ∈ s.doomed
    · exact h i hi
    · rw [Table.mem_keys_iff]
      cases ht : s.tasks.get? i with
      | none => simp [canGo, ht, hi] at hgo
      | some t => rfl
  | writer i =>
    refine htask i ?_ _ (by simp)
    rw [Table.mem_keys_iff]
    cases hi : s.tasks.get? i with
    | none => simp [canGo, hi] at hgo
    | some t => rfl
  | reader i =>
    refine htask i ?_ _ (by simp)
    rw [Table.mem_keys_iff]
    cases hi : s.tasks.get? i with
    | none => simp [canGo, hi] at hgo
    | some t => rfl
  | greeter i =>
    have hkey : i ∈ s.greetings.keys := by
      rw [Table.mem_keys_iff]
      cases hi : s.greetings.get? i with
      | none => simp [canGo, hi] at hgo
      | some g => rfl
    exact List.mem_append_right _ (List.mem_map.mpr ⟨i, hkey, rfl⟩)

/-- Whoever could go on stands in line once all have been woken. -/
theorem Tidy.wake_alert (h : s.Tidy) : s.wake.Alert := by
  intro w hgo
  have hgo' : s.canGo w = true := hgo
  have hmem := h.mem_workers hgo'
  show w ∈ s.due ++ s.workers.filter fun w => s.canGo w && !s.due.contains w
  by_cases hdue : w ∈ s.due
  · exact List.mem_append_left _ hdue
  · refine List.mem_append_right _ (List.mem_filter.mpr ⟨hmem, ?_⟩)
    simp [hgo', hdue]

/-- When everybody who could go on stands in line, there is nobody to wake. -/
theorem wake_of_alert (h : s.Alert) : s.wake = s := by
  have hnone : (s.workers.filter fun w => s.canGo w && !s.due.contains w) = [] := by
    refine List.filter_eq_nil_iff.mpr fun w _ hw => ?_
    simp only [Bool.and_eq_true, Bool.not_eq_true', List.contains_eq_mem,
      decide_eq_false_iff_not] at hw
    exact hw.2 (h w hw.1)
  rw [wake, hnone, List.append_nil]

theorem length_due_wake (s : Session) :
    s.wake.due.length ≤ s.due.length + s.workers.length := by
  rw [wake, List.length_append]
  exact Nat.add_le_add_left (List.length_filter_le ..) _

theorem length_spawned_le (s : Session) (w : Worker) : (s.spawned w).length ≤ 2 := by
  unfold spawned
  split
  · split
    · split <;> simp
    · simp
  · simp

/-- A bound on the turns that are left, if there are at most so many workers. -/
def potential (s : Session) (workers : Nat) : Nat :=
  s.due.length + (if s.resting then 2 else 0) + (workers + 5) * s.weight

/-- What is done for good pays for waking everybody, for a longer line and for a rest. -/
theorem potential_wake_lt {n : Nat} (hworkers : s'.workers.length ≤ n)
    (hdue : s'.due.length ≤ s.due.length + 1) (hlt : s'.weight < s.weight) :
    s'.wake.potential n < s.potential n := by
  have hlength := length_due_wake s'
  have hrest : (if s'.wake.resting then 2 else 0) ≤ 2 := by split <;> omega
  have hweight : s'.wake.weight = s'.weight := rfl
  have hless : (n + 5) * s'.weight + (n + 5) ≤ (n + 5) * s.weight := by
    rw [← Nat.mul_succ]
    exact Nat.mul_le_mul_left _ hlt
  simp only [potential, hweight]
  omega

/-- A shorter line is nearer its end, when nothing is brought into it. -/
theorem potential_lt_of_shorter (n : Nat) (hdue : s'.due.length < s.due.length)
    (hresting : s'.resting = s.resting) (hle : s'.weight ≤ s.weight) :
    s'.potential n < s.potential n := by
  have hmul := Nat.mul_le_mul_left (n + 5) hle
  simp only [potential, hresting]
  omega

/-- When the first in line has nothing left to do, and nobody else has anything new to do, the
others in line are all that could go on. -/
theorem Alert.wake_eq (h : s.Alert) {w : Worker} {rest : List Worker} (hd : s.due = w :: rest)
    (hdue : s'.due = rest) (hquiet : ∀ x, s'.canGo x = true → s.canGo x = true)
    (hidle : s'.canGo w = false) : s'.wake = s' := by
  refine wake_of_alert fun x hx => ?_
  have hold := h x (hquiet x hx)
  rw [hd] at hold
  rw [hdue]
  rcases List.mem_cons.mp hold with rfl | hmem
  · rw [hidle] at hx
    cases hx
  · exact hmem

/-- A task that takes its turn has begun, or is cut off. -/
theorem begun_of_turn {i : Nat} {t : Task}
    (hi : (s.performAll (s.moves (.task i))).tasks.get? i = some t) : t.isFresh = false := by
  by_contra hf
  rw [Bool.not_eq_false] at hf
  by_cases hdoomed : i ∈ s.doomed
  · have hmoves : s.moves (.task i) = [.cancel i] := by simp [moves, hdoomed]
    rw [hmoves] at hi
    have hcut : (s.cancelTask i).tasks.get? i = some t := hi
    obtain ⟨u, hu, -⟩ := (cancelTask_advances hdoomed).1.begun i t hi hf
    obtain ⟨hub, -, hcancel⟩ := cancelTask_eq hu
    rw [hcancel, get?_putTask, if_pos rfl] at hcut
    cases hcut
    rw [u.isFresh_abort] at hf
    cases hf
  · have hadvances :=
      s.advancesAll (moves_free (w := .task i) fun j hj => by cases hj; exact hdoomed)
    obtain ⟨u, hu, hfresh⟩ := hadvances.begun i t hi hf
    cases u with
    | paired p =>
      have hstage : p.stage = .fresh := by simpa [Task.isFresh] using hfresh
      have hmoves : s.moves (.task i) = [.start i, .observeReader i, .observeWriter i] := by
        simp [moves, hdoomed, hu]
      rw [hmoves] at hi
      have hcancels : ∀ m ∈ [Move.observeReader i, .observeWriter i], m.cancels = false := by
        simp [Move.cancels]
      have hrest := (s.startTask i).advancesAll hcancels
      obtain ⟨u', hu', hf'⟩ := hrest.begun i t hi hf
      have hstarted : (s.startTask i).tasks.get? i = some (.paired p.start) := by
        rw [startTask_eq hu, get?_putTask, if_pos rfl]
      rw [hstarted] at hu'
      cases hu'
      simp [Task.isFresh, Pair.start, hstage] at hf'
    | _ => cases hfresh

/-- A turn brings the end nearer, and leaves nobody behind who could go on. -/
theorem turn_nearer (ht : s.Tidy) (ha : s.Alert) {w : Worker} {rest : List Worker}
    (hd : s.due = w :: rest) {n : Nat} (hn : s.workers.length ≤ n) :
    let after := (s.lined rest s.resting).turn w
    after.Tidy ∧ after.Alert ∧ after.workers.length ≤ n ∧ after.potential n < s.potential n := by
  intro after
  let s₀ := s.lined rest s.resting
  obtain ⟨hadvances, hspent, hbusy⟩ := s₀.spent w
  obtain ⟨hdue, hresting⟩ := performAll_line (s := s₀) (s₀.moves w)
  let moved := s₀.performAll (s₀.moves w)
  let line := moved.lined (rest ++ s₀.spawned w) (s.resting || s₀.rests w)
  have hafter : after = line.wake := by
    show ({ moved with due := moved.due ++ s₀.spawned w, resting := _ } : Session).wake = _
    rw [hdue]
    rfl
  have hline : line.Tidy := hadvances.tidy ht
  have hworkers : line.workers.length ≤ n := Nat.le_trans hadvances.workers hn
  refine ⟨hafter ▸ hline, hafter ▸ hline.wake_alert, hafter ▸ hworkers, ?_⟩
  by_cases hlt : moved.weight < s.weight
  · -- Something is done for good: everybody may be woken.
    have hspawned := s₀.length_spawned_le w
    have hlined : line.due.length = rest.length + (s₀.spawned w).length := List.length_append
    have hlonger : line.due.length ≤ s.due.length + 1 := by
      rw [hlined, hd, List.length_cons]
      omega
    rw [hafter]
    exact potential_wake_lt hworkers hlonger hlt
  · -- Nothing is done for good: nobody is woken, and the line is shorter.
    have hquiet : ∀ x, moved.canGo x = true → s.canGo x = true :=
      hadvances.quiet.resolve_left hlt
    have hidle : moved.canGo w = false := hspent.resolve_left hlt
    have hnone : s₀.spawned w = [] ∧ s₀.rests w = false := by
      constructor
      · by_contra hne
        exact hlt (hbusy (Or.inl hne))
      · by_contra hne
        exact hlt (hbusy (Or.inr (by simpa using hne)))
    have hmoved : line = moved := by
      show moved.lined (rest ++ s₀.spawned w) (s.resting || s₀.rests w) = moved
      rw [hnone.1, hnone.2, List.append_nil, Bool.or_false]
      have hself := moved.lined_self
      rw [hdue, hresting] at hself
      exact hself
    have hsame : after = moved := by rw [hafter, hmoved, ha.wake_eq hd hdue hquiet hidle]
    have hshorter : moved.due.length < s.due.length := by
      rw [hdue, hd]
      exact Nat.lt_succ_self _
    rw [hsame]
    exact potential_lt_of_shorter n hshorter hresting hadvances.weight

/-- When the line is empty and the control loop goes on, it stands in line alone. -/
theorem resume_nearer (ht : s.Tidy) (ha : s.Alert) (hd : s.due = []) (hr : s.resting = true)
    (n : Nat) : s.resume.Tidy ∧ s.resume.Alert ∧ s.resume.potential n < s.potential n := by
  let awake := s.lined [] false
  have hresume : s.resume = awake.wake := by
    have hline : ({ s with resting := false } : Session) = awake := by
      simp only [awake, Session.lined, hd]
    exact congrArg wake hline
  have htidy : awake.Tidy := ht
  have honly (w : Worker) (hw : awake.canGo w = true) : w = .hub := by
    cases w with
    | hub => rfl
    | task i => exact absurd (ha (.task i) hw) (by simp [hd])
    | writer i => exact absurd (ha (.writer i) hw) (by simp [hd])
    | reader i => exact absurd (ha (.reader i) hw) (by simp [hd])
    | greeter i => exact absurd (ha (.greeter i) hw) (by simp [hd])
  have hlength : awake.wake.due.length ≤ 1 := by
    have hall : awake.wake.due = awake.workers.filter fun w => awake.canGo w := by
      simp [wake, awake, Session.lined]
    have hcount : awake.wake.due.length ≤ awake.workers.count .hub := by
      rw [hall, ← List.countP_eq_length_filter, List.count]
      refine List.countP_mono_left fun w _ hw => ?_
      rw [honly w hw]
      rfl
    refine Nat.le_trans hcount ?_
    simp [workers, List.count_flatMap, Function.comp_def, List.count_eq_zero]
  rw [hresume]
  refine ⟨htidy, htidy.wake_alert, ?_⟩
  have hresting : awake.wake.resting = false := rfl
  have hweight : awake.wake.weight = s.weight := rfl
  simp only [potential, hresting, hweight, hd, hr, List.length_nil, if_true]
  simp only [Bool.false_eq_true, if_false]
  omega

/-- When nobody stands in line and the control loop does not rest, nobody could go on. -/
theorem Alert.settled (ha : s.Alert) (hd : s.due = []) (hr : s.resting = false) : s.Settled := by
  refine ⟨hd, hr, fun w => Bool.eq_false_iff.mpr fun hgo => ?_⟩
  have hmem := ha w hgo
  rw [hd] at hmem
  cases hmem

/-- Enough turns bring a session to rest. -/
theorem turns_settled (ht : s.Tidy) (ha : s.Alert) {workers fuel : Nat}
    (hn : s.workers.length ≤ workers) (hf : s.potential workers ≤ fuel) :
    (turns fuel s).Settled := by
  induction fuel generalizing s with
  | zero =>
    have hdue : s.due = [] := by
      rw [← List.length_eq_zero_iff]
      simp only [potential] at hf
      omega
    have hresting : s.resting = false := by
      cases hr : s.resting with
      | false => rfl
      | true =>
        simp only [potential, hr, if_true] at hf
        omega
    exact ha.settled hdue hresting
  | succ fuel ih =>
    rw [turns]
    cases hd : s.due with
    | nil =>
      cases hr : s.resting with
      | false => exact ha.settled hd hr
      | true =>
        obtain ⟨htidy, halert, hlt⟩ := resume_nearer ht ha hd hr workers
        exact ih htidy halert hn (by omega)
    | cons w rest =>
      obtain ⟨htidy, halert, hworkers, hlt⟩ := turn_nearer ht ha hd hn
      exact ih htidy halert hworkers (Nat.le_of_lt_succ (Nat.lt_of_lt_of_le hlt hf))

/-- Settling brings every session to rest. -/
theorem Tidy.settled (h : s.Tidy) : s.settle.Settled := by
  refine turns_settled (s := s.wake) h h.wake_alert (Nat.le_refl _) ?_
  have hall := Table.total_le Task.weight Task.weight_le s.wake.tasks
  have hhub : s.wake.hub.weight ≤ s.wake.hub.pending.length + 1 := by
    unfold Hub.weight
    split <;> omega
  have hweight : s.wake.weight ≤ s.wake.hub.pending.length + 10 * s.wake.tasks.keys.length +
      2 * s.wake.greetings.keys.length + 2 * s.wake.doomed.length + 1 := by
    simp only [weight]
    omega
  have hmul := Nat.mul_le_mul_left (s.wake.workers.length + 5) hweight
  have hresting : (if s.wake.resting then 2 else 0) ≤ 2 := by split <;> omega
  simp only [potential, patience]
  omega

/-! ### Beginning -/

/-- After its turn a task has begun, and those that have not still stand in line. -/
theorem Begun.turn (h : s.Begun) {w : Worker} {rest : List Worker} (hd : s.due = w :: rest) :
    ((s.lined rest s.resting).turn w).Begun := by
  intro i t hi hf
  let s₀ := s.lined rest s.resting
  obtain ⟨hadvances, -, -⟩ := s₀.spent w
  obtain ⟨hdue, -⟩ := performAll_line (s := s₀) (s₀.moves w)
  have hi' : (s₀.performAll (s₀.moves w)).tasks.get? i = some t := hi
  obtain ⟨u, hu, hu'⟩ := hadvances.begun i t hi' hf
  have hold : .task i ∈ s.due := h i u hu hu'
  rw [hd] at hold
  rcases List.mem_cons.mp hold with heq | hmem
  · rw [← heq] at hi'
    rw [begun_of_turn hi'] at hf
    cases hf
  · refine List.mem_append_left _ ?_
    show .task i ∈ (s₀.performAll (s₀.moves w)).due ++ s₀.spawned w
    rw [hdue]
    exact List.mem_append_left _ hmem

theorem Begun.turns (h : s.Begun) (fuel : Nat) : (turns fuel s).Begun := by
  induction fuel generalizing s with
  | zero => exact h
  | succ fuel ih =>
    rw [Session.turns]
    cases hd : s.due with
    | nil =>
      cases hr : s.resting with
      | false => exact h
      | true => exact ih fun i t hi hf => List.mem_append_left _ (h i t hi hf)
    | cons w rest => exact ih (h.turn hd)

theorem Begun.settle (h : s.Begun) : s.settle.Begun :=
  Begun.turns (s := s.wake) (fun i t hi hf => List.mem_append_left _ (h i t hi hf)) _

theorem Sound.tidy (h : s.Sound) : s.Tidy := fun i hi => by rw [h.undoomed] at hi; cases hi

/-- Settling brings every session behind the router to rest. -/
theorem Sound.settled (h : s.Sound) (hb : s.Begun) : s.settle.Settled ∧ s.settle.Begun :=
  ⟨h.tidy.settled, hb.settle⟩

/-! ### Runs -/

/-- What holds of every session behind the router, its line included. -/
structure Steady (s : Session) : Prop where
  sound : s.Sound
  begun : s.Begun

theorem Begun.of_eq (h : s.Begun) (htasks : s'.tasks = s.tasks)
    (hdue : ∀ w ∈ s.due, w ∈ s'.due) : s'.Begun :=
  fun i p hi hf => hdue _ (h i p (htasks ▸ hi) hf)

theorem Begun.putTask (h : s.Begun) {i : Nat} {p : Pair}
    (hi : s.tasks.get? i = some (.paired p)) (p' : Pair) (hstage : p'.stage = p.stage) (hub : Hub)
    (links : Table Nat WebSocket.Link) : (s.putTask i (.paired p') hub links).Begun := by
  intro j u hj hu
  have hfresh (hf : (Task.paired p').isFresh = true) : (Task.paired p).isFresh = true := by
    simpa only [Task.isFresh, hstage] using hf
  obtain ⟨u', hj', hu'⟩ := begun_putTask _ hub links hi hfresh j u hj hu
  exact h j u' hj' hu'

theorem Steady.settle (h : s.Steady) : s.settle.Steady :=
  ⟨h.sound.settle, (h.sound.settled h.begun).2⟩

theorem Begun.closeStream (h : s.Begun) (i : Nat) : (s.closeStream i).Begun := by
  unfold Session.closeStream
  split
  · exact h
  · exact h.of_eq rfl fun _ hw => hw

theorem Begun.readStream (h : s.Begun) (i : Nat) (limit : Option Nat) :
    (s.readStream i limit).2.Begun := by
  unfold Session.readStream
  split
  · exact h
  · split
    · exact h
    · simp only []
      split
      · refine Begun.closeStream ?_ i
        exact h.of_eq rfl fun _ hw => hw
      · exact h.of_eq rfl fun _ hw => hw

theorem Begun.finishGreeting (h : s.Begun) (i : Nat) : (s.finishGreeting i).2.Begun := by
  rcases s.greeting_cases i with ⟨c, student, hi⟩ | ⟨-, hsame⟩
  · intro j p hj hf
    simp only [Session.finishGreeting, hi, runPair, addTask, fresh, Session.log,
      Table.get?_insert] at hj ⊢
    split at hj
    · rename_i hnext
      exact List.mem_append_right _ (List.mem_singleton.mpr (congrArg _ hnext))
    · exact List.mem_append_left _ (h j p hj hf)
  · rw [hsame]
    exact h

theorem Begun.sever (h : s.Begun) (hs : s.Sound) (i : Nat) (why : String) :
    (s.sever i why).Begun := by
  rcases hs.task_cases i with hi | ⟨p, hi, -⟩
  · rw [sever_of_none hi]
    exact h
  · rw [sever_eq hi]
    refine h.putTask hi _ ?_ _ _
    rfl

theorem Begun.arrive (h : s.Begun) (hs : s.Sound) (i : Nat) (frame : Inbound) :
    (s.arrive i frame).2.Begun := by
  rcases hs.task_cases i with hi | ⟨p, hi, -⟩
  · rw [Session.arrive, hi]
    exact h
  · rw [arrive_eq hi]
    exact h.putTask hi { p with reader := p.reader.receive frame } rfl _ _

theorem Begun.absorb (h : s.Begun) (hs : s.Sound) {i : Nat} (hr : s.readable i = true)
    (arrival : WebSocket.Arrival) : (s.absorb i arrival).Begun := by
  rcases hs.task_cases i with hi | ⟨p, hi, -⟩
  · simp [readable, hi] at hr
  · rw [absorb_eq hi]
    exact h.putTask hi (absorbed arrival p) rfl _ _

theorem Steady.finish_errand (h : s.Steady) (config : Config) (kept : Bool) (e : Web.Errand) :
    (e.finish config s kept).Steady := by
  refine ⟨h.sound.finish_errand config kept e, ?_⟩
  have hopened (a : Audience) : (Web.openStream config a s).2.Begun :=
    h.begun.of_eq rfl fun _ hw => hw
  cases e with
  | stream a =>
    cases kept with
    | true => exact hopened a
    | false => exact (hopened a).closeStream _
  | nothing => exact h.begun
  | upgrade student => exact h.begun
  | publish d => exact h.begun.of_eq rfl fun _ hw => hw
  | figures =>
    have hasked : { s with hub := s.hub.askStats.2 }.Steady :=
      ⟨h.sound.asked, h.begun.of_eq rfl fun _ hw => hw⟩
    exact hasked.settle.begun.of_eq rfl fun _ hw => hw

theorem Steady.logAll (h : s.Steady) (entries : List Entry) : (s.logAll entries).Steady :=
  ⟨h.sound.logAll entries, h.begun.of_eq rfl fun _ hw => hw⟩

theorem Steady.step (h : s.Steady) (config : Config) (x : Web.Step) :
    (Web.perform config s x).Steady := by
  refine ⟨h.sound.step config x, ?_⟩
  cases x with
  | http r kept =>
    rw [Web.perform_http]
    exact ((h.logAll _).finish_errand config _ _).begun
  | connect r failure =>
    rw [Web.perform_connect]
    split
    · exact h.begun.of_eq rfl fun _ hw => hw
    · exact h.begun.of_eq rfl fun _ hw => hw
    · exact ((h.logAll _).finish_errand config _ _).begun
  | greet i => exact h.begun.finishGreeting i
  | hangUp i why => exact h.begun.of_eq rfl fun _ hw => hw
  | read i limit => exact h.begun.readStream i limit
  | drop i => exact h.begun.closeStream i
  | bytes i data =>
    simp only [Web.perform, feed]
    split
    · split
      · exact h.begun.absorb h.sound ‹_› _
      · exact h.begun
    · exact h.begun
  | lose i =>
    simp only [Web.perform, Session.lose]
    split
    · split
      · exact h.begun.absorb h.sound ‹_› _
      · exact h.begun
    · exact h.begun
  | sever i why => exact h.begun.sever h.sound i why
  | inbound i frame => exact h.begun.arrive h.sound i frame
  | endInput i =>
    simp only [Web.perform]
    rcases h.sound.task_cases i with hi | ⟨p, hi, -⟩
    · rw [Session.endInput, hi]
      exact h.begun
    · rw [endInput_eq hi]
      exact h.begun.putTask hi { p with reader := p.reader.endInput } rfl _ _
  | publish d => exact h.begun.of_eq rfl fun _ hw => hw
  | handle d => exact h.begun.of_eq rfl fun _ hw => hw
  | advance ms =>
    have hlater : { s with clock := s.clock + ms }.Steady :=
      ⟨h.sound.later ms, h.begun.of_eq rfl fun _ hw => hw⟩
    exact hlater.settle.begun
  | move m =>
    simp only [Web.perform]
    split
    · exact h.begun
    · rename_i hm
      intro i p hi hf
      have hadvances : s.Advances (s.perform m) :=
        perform_advances_of_free (Bool.eq_false_iff.mpr hm)
      obtain ⟨q, hq, hq'⟩ := hadvances.begun i p hi hf
      have hline : (s.perform m).due = s.due := (performAll_line [m]).1
      rw [hline]
      exact h.begun i q hq hq'
  | settle => exact h.settle.begun

theorem Steady.run (h : s.Steady) (config : Config) (steps : List Web.Step) :
    (Web.run config s steps).Steady := by
  induction steps generalizing s with
  | nil => exact h
  | cons x rest ih => exact ih (h.step config x)

theorem steady_ofConfig {config : Config} {start : Session}
    (h : ofConfig? config = .ok start) : start.Steady := by
  refine ⟨sound_ofConfig h, fun i p hi hf => ?_⟩
  unfold ofConfig? start? at h
  split at h <;> cases h
  cases hi

end LiveUpdate.Session
