import LiveUpdate.Proofs.FanOut

/-! The table and the figures of the hub after whatever its control loop has applied. Between two
commands the mailboxes may have changed in any way: the table does not depend on them. -/
namespace LiveUpdate.Hub

open Command

/-- The loop applies a command at a moment when the mailboxes are as given. -/
def applyAmid (hub : Hub) (moment : Table ConnectionId Mailbox × Command) : Hub :=
  { hub with mailboxes := moment.1 }.apply moment.2

theorem applyAmid_registry (hub : Hub) (moment : Table ConnectionId Mailbox × Command) :
    (hub.applyAmid moment).registry = moment.2.enact hub.registry := apply_registry _ _

theorem indexed_history (history : List (Table ConnectionId Mailbox × Command)) (hub : Hub)
    (h : hub.registry.Indexed) : (history.foldl applyAmid hub).registry.Indexed := by
  induction history generalizing hub with
  | nil => exact h
  | cons moment rest ih =>
    apply ih
    rw [applyAmid_registry]
    exact indexed_enact h _

theorem audiences_history (history : List (Table ConnectionId Mailbox × Command)) (hub : Hub)
    (c : ConnectionId) : (history.foldl applyAmid hub).registry.audiences.get? c =
      standing c (hub.registry.audiences.get? c) (history.map Prod.snd) := by
  induction history generalizing hub with
  | nil => rfl
  | cons moment rest ih =>
    rw [List.foldl_cons, ih, applyAmid_registry, audiences_enact]
    rfl

/-- Messages and questions leave the table alone. -/
theorem figures_of_enact_eq {hub : Hub} {moment : Table ConnectionId Mailbox × Command}
    (h : moment.2.enact hub.registry = hub.registry) :
    (hub.applyAmid moment).stats.connections = hub.stats.connections ∧
      (hub.applyAmid moment).stats.students = hub.stats.students ∧
      (hub.applyAmid moment).stats.unfiltered = hub.stats.unfiltered := by
  simp only [stats, applyAmid_registry, h, and_self]

/-- Table and index agree after any commands, and tell what the commands said; every figure counts
what it is named for, and only entering and leaving change the figures. -/
theorem table_and_figures (capacity : Nat) (hpos : 0 < capacity)
    (history : List (Table ConnectionId Mailbox × Command)) :
    let hub := history.foldl applyAmid (start capacity hpos)
    let held (c : ConnectionId) := standing c none (history.map Prod.snd)
    (∀ a cs, hub.registry.members.get? a = some cs → cs ≠ []) ∧
    (∀ c a, c ∈ hub.registry.bucket a ↔ hub.registry.audiences.get? c = some a) ∧
    (∀ c, hub.registry.audiences.get? c = held c) ∧
    (∀ c, (held c).isSome = true → ∃! a, c ∈ hub.registry.bucket a) ∧
    (∀ a, (hub.registry.bucket a).Nodup) ∧
    hub.stats.connections = {c | (held c).isSome = true}.ncard ∧
    hub.stats.unfiltered = {c | held c = some .unfiltered}.ncard ∧
    hub.stats.students = {id | ∃ c, held c = some (.student id)}.ncard ∧
    hub.stats.connections = hub.stats.unfiltered + hub.registry.studentConnections ∧
    ∀ mailboxes command, (∃ m, command = .send m) ∨ (∃ ticket, command = .stats ticket) →
      (hub.applyAmid (mailboxes, command)).stats.connections = hub.stats.connections ∧
      (hub.applyAmid (mailboxes, command)).stats.students = hub.stats.students ∧
      (hub.applyAmid (mailboxes, command)).stats.unfiltered = hub.stats.unfiltered := by
  intro hub held
  have hi : hub.registry.Indexed := indexed_history history _ Registry.indexed_empty
  have hheld (c : ConnectionId) : hub.registry.audiences.get? c = held c :=
    audiences_history history _ c
  simp only [← hheld]
  refine ⟨hi.occupied, hi.mem_bucket, fun _ => trivial, ?_, hi.distinct,
    hub.registry.connectionCount_eq_ncard, hi.unfilteredCount_eq_ncard, hi.studentCount_eq_ncard,
    hi.connectionCount_eq_sum, ?_⟩
  · intro c hc
    obtain ⟨a, ha⟩ := Option.isSome_iff_exists.mp hc
    refine ⟨a, (hi.mem_bucket c a).mpr ha, fun b hb => ?_⟩
    exact Option.some.inj (((hi.mem_bucket c b).mp hb).symm.trans ha)
  · rintro mailboxes command (⟨m, rfl⟩ | ⟨ticket, rfl⟩) <;> exact figures_of_enact_eq rfl

/-- Two connections of one student, of which one leaves, and one that sees everything. -/
def sharedStudent : List Command :=
  [.register ⟨0⟩ (.student 5), .register ⟨1⟩ .unfiltered, .register ⟨2⟩ (.student 5),
    .unregister ⟨0⟩, .send ⟨.broadcast, .hello⟩, .unregister ⟨7⟩]

theorem figures_sharedStudent : 0 < 4 ∧
    {c | (standing c none sharedStudent).isSome = true}.ncard = 2 ∧
    {id | ∃ c, standing c none sharedStudent = some (.student id)}.ncard = 1 := by
  obtain ⟨-, -, -, -, -, hconnections, -, hstudents, -⟩ :=
    table_and_figures 4 (by decide) (sharedStudent.map (.empty, ·))
  exact ⟨by decide, hconnections.symm.trans (by decide), hstudents.symm.trans (by decide)⟩

end LiveUpdate.Hub
