import LiveUpdate.Proofs.Settling

/-! How the owners of registrations fare while a session goes on by itself. Bodies stay, and so do
greetings that can be written; a pair loses its connection only by the end of its inbound side or by
the failure of its writer, and a writer that is still needed fails only on a broken transport. -/
namespace LiveUpdate

/-- The connection that a greeting keeps alive, unless it cannot be written. -/
def Greeting.keeps (g : Greeting) : Option ConnectionId :=
  if g.obstacle = none then some g.connection else none

/-- A pair goes on by itself. Its writer fails once and for all, and only if its transport is broken
or nothing is left to be heard. -/
structure Pair.Endures (p p' : Pair) : Prop where
  connection : p'.connection = p.connection
  hears : p'.reader.hears = p.reader.hears
  breaksAfter : p'.writer.sink.breaksAfter = p.writer.sink.breaksAfter
  failed : p.writer.outcome.hasFailed = true → p'.writer.outcome.hasFailed = true
  fails : p'.writer.outcome.hasFailed = true → p.writer.outcome.hasFailed = true ∨
    p.reader.hears = false ∨ p.writer.sink.breaksAfter.isSome = true

namespace Pair

variable {p p' p'' : Pair}

theorem Endures.of_writer (hc : p'.connection = p.connection)
    (hh : p'.reader.hears = p.reader.hears) (hw : p'.writer = p.writer) : p.Endures p' where
  connection := hc
  hears := hh
  breaksAfter := by rw [hw]
  failed hf := by rwa [hw]
  fails hf := Or.inl (by rwa [hw] at hf)

theorem endures_refl (p : Pair) : p.Endures p := .of_writer rfl rfl rfl

theorem Endures.trans (h : p.Endures p') (h' : p'.Endures p'') : p.Endures p'' where
  connection := h'.connection.trans h.connection
  hears := h'.hears.trans h.hears
  breaksAfter := h'.breaksAfter.trans h.breaksAfter
  failed hf := h'.failed (h.failed hf)
  fails hf := by
    rcases h'.fails hf with hf | hdeaf | hbroken
    · exact h.fails hf
    · exact Or.inr (Or.inl (h.hears ▸ hdeaf))
    · exact Or.inr (Or.inr (h.breaksAfter ▸ hbroken))

theorem Sound.endures_start (h : p.Sound) : p.Endures p.start := by
  obtain ⟨-, hc, -, hhears, -⟩ := h.start
  have hwriter : p.start.writer.sink = p.writer.sink ∧
      p.start.writer.outcome.hasFailed = p.writer.outcome.hasFailed := by
    unfold Pair.start
    split
    · exact ⟨rfl, p.writer.outcome.hasFailed_start⟩
    · exact ⟨rfl, rfl⟩
  exact ⟨hc, hhears, by rw [hwriter.1], fun hf => hwriter.2.trans hf,
    fun hf => Or.inl (hwriter.2.symm.trans hf)⟩

theorem observeWriter_of_idle (h : p.canGo = false) : p.observeWriter = (p, [], []) := by
  simp only [canGo, Bool.or_eq_false_iff] at h
  rw [observeWriter, h.1]
  rfl

theorem observeReader_of_idle (h : p.canGo = false) : p.observeReader = (p, [], []) := by
  simp only [canGo, Bool.or_eq_false_iff] at h
  rw [observeReader, h.2]
  rfl

end Pair

/-- Whether a command leaves the mailbox of a connection alone. -/
def Command.spares (c : ConnectionId) : Command → Bool
  | register .. | stats _ => true
  | unregister c' => c' ≠ c
  | send _ => false

theorem Hub.mailbox?_apply_of_spares {hub : Hub} (h : hub.registry.Indexed) {command : Command}
    {c : ConnectionId} (hc : command.spares c = true) :
    (hub.apply command).mailbox? c = hub.mailbox? c := by
  rw [mailbox?_apply hub h]
  cases command with
  | register c' a => rfl
  | unregister c' =>
    have hne : c ≠ c' := fun he => of_decide_eq_true hc he.symm
    simp [hne]
  | send m => cases hc
  | stats ticket => rfl

namespace Session

variable {s s' : Session}

/-- A session goes on by itself: its bodies stay, and its greetings that can be written; and every
pair goes on. -/
structure Endures (s s' : Session) : Prop where
  streams : ∀ i, s'.streams.get? i = s.streams.get? i
  greetings : ∀ i, (s'.greetings.get? i).bind Greeting.keeps =
    (s.greetings.get? i).bind Greeting.keeps
  pairs : ∀ i p, s.tasks.get? i = some (.paired p) →
    ∃ p', s'.tasks.get? i = some (.paired p') ∧ p.Endures p'
  old : ∀ i p', s'.tasks.get? i = some (.paired p') → ∃ p, s.tasks.get? i = some (.paired p)

theorem Endures.of_tasks (hstreams : ∀ i, s'.streams.get? i = s.streams.get? i)
    (hgreetings : ∀ i, (s'.greetings.get? i).bind Greeting.keeps =
      (s.greetings.get? i).bind Greeting.keeps) (htasks : s'.tasks = s.tasks) : s.Endures s' where
  streams := hstreams
  greetings := hgreetings
  pairs _ p hi := ⟨p, htasks ▸ hi, p.endures_refl⟩
  old _ p hi := ⟨p, htasks ▸ hi⟩

theorem endures_refl (s : Session) : s.Endures s := .of_tasks (fun _ => rfl) (fun _ => rfl) rfl

theorem Endures.trans {s'' : Session} (h : s.Endures s') (h' : s'.Endures s'') :
    s.Endures s'' where
  streams i := (h'.streams i).trans (h.streams i)
  greetings i := (h'.greetings i).trans (h.greetings i)
  pairs i p hi := by
    obtain ⟨p', hi', hp'⟩ := h.pairs i p hi
    obtain ⟨p'', hi'', hp''⟩ := h'.pairs i p' hi'
    exact ⟨p'', hi'', hp'.trans hp''⟩
  old i p'' hi := by
    obtain ⟨p', hi'⟩ := h'.old i p'' hi
    exact h.old i p' hi'

theorem endures_putTask {i : Nat} {p : Pair} (hi : s.tasks.get? i = some (.paired p)) {p' : Pair}
    (hp : p.Endures p') (hub : Hub) (links : Table Nat WebSocket.Link) :
    s.Endures (s.putTask i (.paired p') hub links) where
  streams _ := rfl
  greetings _ := rfl
  pairs j q hq := by
    rw [get?_putTask]
    by_cases hj : j = i
    · rw [if_pos hj]
      rw [hj, hi] at hq
      cases hq
      exact ⟨p', rfl, hp⟩
    · rw [if_neg hj]
      exact ⟨q, hq, q.endures_refl⟩
  old j q hq := by
    rw [get?_putTask] at hq
    by_cases hj : j = i
    · exact ⟨p, hj ▸ hi⟩
    · rw [if_neg hj] at hq
      exact ⟨q, hq⟩

theorem Sound.endures_stepWriter (h : s.Sound) (i : Nat) : s.Endures (s.stepWriter i) := by
  rcases s.writer_cases i with ⟨hsame, -⟩ | ⟨t, w, box, hwrites⟩
  · rw [hsame]
    exact s.endures_refl
  · obtain ⟨p, rfl, hp⟩ := h.pairs i t hwrites.task
    have hi := hwrites.task
    have hbox := hwrites.mailbox
    cases hwrites.writer
    obtain ⟨hc, -, hbreaks, -, hcases⟩ := p.writer.step_cases box hp.json
    have hendures : p.Endures { p with writer := (p.writer.step box).1 } := by
      rcases hcases with ⟨ho, -⟩ | ⟨hr, -, -, hend⟩
      · exact ⟨hc, rfl, hbreaks, fun hf => ho ▸ hf, fun hf => Or.inl (ho ▸ hf)⟩
      · refine ⟨hc, rfl, hbreaks, fun hf => ?_, fun _ => Or.inr ?_⟩
        · rw [hr] at hf
          cases hf
        · rcases hend with ⟨hbroken, -⟩ | hclosed
          · exact Or.inr hbroken
          · exact Or.inl (h.deaf_of_closed hi hbox hr hclosed)
    rw [stepWriter_eq hi rfl hbox]
    exact endures_putTask hi hendures _ _

theorem Sound.endures_stepReader (h : s.Sound) (i : Nat) : s.Endures (s.stepReader i) := by
  rcases h.task_cases i with hi | ⟨p, hi, -⟩
  · rw [Session.stepReader, hi]
    exact s.endures_refl
  · obtain ⟨-, hhears, -⟩ := p.reader.step_cases
    have hendures : p.Endures { p with reader := p.reader.step.1 } := .of_writer rfl hhears rfl
    rw [stepReader_eq hi rfl]
    exact endures_putTask hi hendures _ _

theorem Sound.endures_observe (h : s.Sound) (i : Nat)
    {look : Pair → Pair × List Command × List Entry}
    (hlook : ∀ p : Pair, p.Sound → p.Endures (look p).1) : s.Endures (s.observe i look) := by
  rcases h.task_cases i with hi | ⟨p, hi, hp⟩
  · rw [Session.observe, hi]
    exact s.endures_refl
  · rw [observe_eq hi]
    exact endures_putTask hi (hlook p hp) _ _

theorem Sound.endures_perform (h : s.Sound) {m : Move} (hm : m.cancels = false) :
    s.Endures (s.perform m) := by
  cases m with
  | apply => exact .of_tasks (fun _ => rfl) (fun _ => rfl) rfl
  | stop =>
    simp only [Session.perform, stopIfIdle]
    split
    · exact .of_tasks (fun _ => rfl) (fun _ => rfl) rfl
    · exact s.endures_refl
  | start i =>
    simp only [Session.perform]
    rcases h.task_cases i with hi | ⟨p, hi, hp⟩
    · rw [Session.startTask, hi]
      exact s.endures_refl
    · rw [startTask_eq hi]
      exact endures_putTask hi hp.endures_start _ _
  | write i => exact h.endures_stepWriter i
  | read i => exact h.endures_stepReader i
  | observeWriter i =>
    refine h.endures_observe i fun p hp => ?_
    obtain ⟨-, hc, hwriter, hhears, -⟩ := hp.observeWriter
    exact .of_writer hc hhears hwriter
  | observeReader i =>
    refine h.endures_observe i fun p hp => ?_
    obtain ⟨-, hc, -, -, hwriter, hreader⟩ := hp.observeReader
    exact .of_writer hc (congrArg Reader.hears hreader) hwriter
  | cancel i => cases hm
  | giveUp i =>
    simp only [Session.perform, Session.giveUpGreeting]
    split
    · rename_i c student why hi
      refine .of_tasks (fun _ => rfl) (fun j => ?_) rfl
      show ((s.greetings.erase i).get? j).bind Greeting.keeps = _
      rw [Table.get?_erase]
      by_cases hj : j = i
      · rw [if_pos hj, hj, hi]
        rfl
      · rw [if_neg hj]
    · exact s.endures_refl

/-- Settling, a session goes on by itself. -/
theorem Sound.endures_settle (h : s.Sound) : s.Endures s.settle := by
  have hkept : s.settle.Sound ∧ s.Endures s.settle :=
    settle_keeps (P := fun t => t.Sound ∧ s.Endures t) (fun _ ht => ht.1.undoomed)
      (fun t m hm ht => ⟨ht.1.perform hm, ht.2.trans (ht.1.endures_perform hm)⟩)
      (fun t due resting ht => ⟨ht.1.lined due resting,
        ht.2.trans (.of_tasks (fun _ => rfl) (fun _ => rfl) rfl)⟩) ⟨h, s.endures_refl⟩
  exact hkept.2

/-! ### Sessions at rest -/

theorem Settled.begun (h : s.Settled) (hs : s.Steady) {i : Nat} {p : Pair}
    (hi : s.tasks.get? i = some (.paired p)) : p.stage ≠ .fresh := by
  intro hf
  have hdue := hs.begun i _ hi (decide_eq_true hf)
  rw [h.due] at hdue
  cases hdue

theorem Settled.supervisor_idle (h : s.Settled) (hs : s.Sound) {i : Nat} {p : Pair}
    (hi : s.tasks.get? i = some (.paired p)) : p.canGo = false := by
  simpa [canGo, hi, hs.undoomed] using h.idle (.task i)

theorem Settled.reader_idle (h : s.Settled) {i : Nat} {p : Pair}
    (hi : s.tasks.get? i = some (.paired p)) : p.reader.canGo = false := by
  simpa [canGo, hi, Task.pair?] using h.idle (.reader i)

/-- Another session has the bodies, the greetings and the pairs of this one, and the mailboxes of
the pairs are as they were. -/
structure Undisturbed (s t : Session) : Prop where
  streams : ∀ i, t.streams.get? i = s.streams.get? i
  greetings : t.greetings = s.greetings
  tasks : t.tasks = s.tasks
  mailbox : ∀ i p, s.tasks.get? i = some (.paired p) →
    t.hub.mailbox? p.connection = s.hub.mailbox? p.connection

/-- No command that is pending reaches the mailbox of a pair. -/
def Spared (s : Session) (hub : Hub) : Prop :=
  ∀ command ∈ hub.pending, ∀ i p, s.tasks.get? i = some (.paired p) →
    command.spares p.connection = true

variable {t : Session}

/-- When a session has settled, nobody but the loop has anything to do. -/
theorem Settled.perform_of_undisturbed (h : s.Settled) (hs : s.Steady) (hu : s.Undisturbed t)
    (ht : t.Sound) {m : Move} (hm : m.cancels = false) (hother : m ≠ .apply) :
    t.perform m = t := by
  have hpair {i : Nat} {p : Pair} (hi : t.tasks.get? i = some (.paired p)) :
      s.tasks.get? i = some (.paired p) := hu.tasks ▸ hi
  cases m with
  | apply => exact absurd rfl hother
  | stop => simp [perform, stopIfIdle, ht.held]
  | start i =>
    rw [perform]
    rcases ht.task_cases i with hi | ⟨p, hi, -⟩
    · rw [startTask, hi]
    · exact startTask_of_begun hi (h.begun hs (hpair hi))
  | write i =>
    refine stepWriter_of_idle ?_
    rcases ht.task_cases i with hi | ⟨p, hi, -⟩
    · simp [writerReady, hi]
    · have hidle := h.idle (.writer i)
      have hbox : t.hub.mailbox? p.writer.connection = s.hub.mailbox? p.writer.connection :=
        hu.mailbox i p (hpair hi)
      simp only [canGo, hpair hi, Option.bind_some, Task.pair?, writerCanGo] at hidle
      simpa only [writerReady, hi, Option.bind_some, Task.writer?, writerCanGo, hbox] using hidle
  | read i =>
    rw [perform]
    rcases ht.task_cases i with hi | ⟨p, hi, -⟩
    · rw [stepReader, hi]
    · rw [stepReader_eq hi rfl, Reader.step_of_idle (h.reader_idle (hpair hi))]
      simp only [Hub.logAll, List.append_nil, Hub.submitAll, List.foldl_nil]
      exact putTask_self hi
  | observeWriter i =>
    rw [perform]
    rcases ht.task_cases i with hi | ⟨p, hi, -⟩
    · rw [observe, hi]
    · have hidle := h.supervisor_idle hs.sound (hpair hi)
      exact observe_of_idle hi (Pair.observeWriter_of_idle hidle)
  | observeReader i =>
    rw [perform]
    rcases ht.task_cases i with hi | ⟨p, hi, -⟩
    · rw [observe, hi]
    · have hidle := h.supervisor_idle hs.sound (hpair hi)
      exact observe_of_idle hi (Pair.observeReader_of_idle hidle)
  | cancel i => cases hm
  | giveUp i =>
    have hidle := h.idle (.greeter i)
    simp only [perform, giveUpGreeting]
    split
    · rename_i c student why hi
      simp [canGo, ← hu.greetings, hi] at hidle
    · rfl

theorem Undisturbed.applyNext (hu : s.Undisturbed t) (ht : t.Sound) (hp : s.Spared t.hub) :
    s.Undisturbed t.applyNext ∧ s.Spared t.hub.step := by
  cases hpending : t.hub.pending with
  | nil =>
    have hsame : t.hub.step = t.hub := Hub.step_nil hpending
    have hnext : t.applyNext = t := by rw [Session.applyNext, onHub, hsame]
    rw [hnext, hsame]
    exact ⟨hu, hp⟩
  | cons command rest =>
    have hstep := Hub.step_cons hpending
    have hindexed : (t.hub.popped rest).registry.Indexed := ht.orderly.indexed
    refine ⟨⟨hu.streams, hu.greetings, hu.tasks, fun i p hi => ?_⟩, fun later hlater => ?_⟩
    · have hspares := hp command (hpending ▸ List.mem_cons_self) i p hi
      show t.hub.step.mailbox? p.connection = _
      rw [hstep, Hub.mailbox?_apply_of_spares hindexed hspares]
      exact hu.mailbox i p hi
    · rw [hstep, Hub.apply_pending] at hlater
      exact hp later (hpending ▸ List.mem_cons_of_mem _ hlater)

/-- What reaches the mailbox of no pair changes nothing in a settled session, but for the hub. -/
theorem Settled.undisturbed_settle (h : s.Settled) (hs : s.Steady) (hu : s.Undisturbed t)
    (ht : t.Sound) (hp : s.Spared t.hub) : s.Undisturbed t.settle ∧ s.Spared t.settle.hub := by
  have hkept : t.settle.Sound ∧ s.Undisturbed t.settle ∧ s.Spared t.settle.hub := by
    refine settle_keeps (P := fun t => t.Sound ∧ s.Undisturbed t ∧ s.Spared t.hub)
      (fun _ ht => ht.1.undoomed) (fun t m hm ht => ⟨ht.1.perform hm, ?_⟩)
      (fun t due resting ht => ⟨ht.1.lined due resting, ?_, ht.2.2⟩) ⟨ht, hu, hp⟩
    · by_cases happly : m = .apply
      · subst happly
        exact ht.2.1.applyNext ht.1 ht.2.2
      · rw [h.perform_of_undisturbed hs ht.2.1 ht.1 hm happly]
        exact ht.2
    · exact ⟨ht.2.1.streams, ht.2.1.greetings, ht.2.1.tasks, ht.2.1.mailbox⟩
  exact hkept.2

end Session
end LiveUpdate
