import LiveUpdate.Proofs.Actions
import LiveUpdate.Proofs.Teardown

/-! What a hub lets in: connections and messages. They are pending first and then applied, which the
journal tells, so that nothing that goes on by itself adds to them or takes any away. -/
namespace LiveUpdate

/-- What a line of the journal shows to have been let in. -/
def Entry.intake? : Entry → Option Command
  | registered c a => some (.register c a)
  | fannedOut m _ _ => some (.send m)
  | _ => none

/-- Whether the control loop writes such a line when it applies a command, and nobody else does. -/
def Entry.fromLoop : Entry → Bool
  | registered .. | unregistered .. | alreadyUnregistered _ | droppedFor .. | stoppedReading _
  | fannedOut .. => true
  | _ => false

theorem Entry.intake?_of_outside {entry : Entry} (h : entry.fromLoop = false) :
    entry.intake? = none := by
  cases entry <;> first | rfl | cases h

/-- Whether a command lets something in. -/
def Command.enters : Command → Bool
  | register .. | send _ => true
  | _ => false

namespace Hub

variable {hub : Hub}

/-- The registrations and messages that the hub has accepted, in order. -/
def intake (hub : Hub) : List Command :=
  hub.journal.filterMap Entry.intake? ++ hub.pending.filter Command.enters

/-! ### The control loop -/

theorem deliver_intake (e : Event) (hub : Hub) (c : ConnectionId) :
    (deliver e hub c).journal.filterMap Entry.intake? = hub.journal.filterMap Entry.intake? := by
  unfold deliver
  split
  · split
    · rfl
    · simp [log, List.filterMap_append, Entry.intake?]
    · simp [log, List.filterMap_append, Entry.intake?]
  · rfl

theorem fanOut_intake (hub : Hub) (m : Message) :
    (hub.fanOut m).journal.filterMap Entry.intake? = hub.journal.filterMap Entry.intake? := by
  have hall (cs : List ConnectionId) (hub : Hub) :
      (cs.foldl (deliver m.event) hub).journal.filterMap Entry.intake? =
        hub.journal.filterMap Entry.intake? := by
    induction cs generalizing hub with
    | nil => rfl
    | cons c rest ih => exact (ih (deliver m.event hub c)).trans (deliver_intake m.event hub c)
  exact hall _ hub

/-- What is applied is told in the journal. -/
theorem apply_intake (hub : Hub) (command : Command) :
    (hub.apply command).journal.filterMap Entry.intake? =
      hub.journal.filterMap Entry.intake? ++ [command].filter Command.enters := by
  cases command with
  | register c a =>
    simp only [apply, log, List.filterMap_append]
    rfl
  | unregister c =>
    simp only [apply]
    split <;> simp [log, List.filterMap_append, Entry.intake?, Command.enters]
  | send m =>
    simp only [apply, log, List.filterMap_append, fanOut_intake]
    rfl
  | stats ticket => simp [apply, Command.enters]

@[simp] theorem intake_step (hub : Hub) : hub.step.intake = hub.intake := by
  cases hp : hub.pending with
  | nil => rw [step_nil hp]
  | cons command rest =>
    have hpopped : (hub.popped rest).journal = hub.journal := rfl
    have hpending : (hub.popped rest).pending = rest := rfl
    rw [step_cons hp, intake, apply_intake, apply_pending, hpopped, hpending, intake, hp,
      List.append_assoc, ← List.filter_append]
    rfl

/-! ### Handles -/

theorem intake_submit (hub : Hub) (command : Command) : (hub.submit command).intake =
    hub.intake ++ if hub.running then [command].filter Command.enters else [] := by
  unfold submit
  split
  · rw [intake, intake, List.filter_append, List.append_assoc]
  · simp [intake, log, List.filterMap_append, Entry.intake?]

theorem intake_submitAll (hub : Hub) (commands : List Command) :
    (hub.submitAll commands).intake =
      hub.intake ++ if hub.running then commands.filter Command.enters else [] := by
  induction commands generalizing hub with
  | nil => simp [submitAll]
  | cons command rest ih =>
    have hrest := ih (hub.submit command)
    rw [submit_running, intake_submit] at hrest
    have hall : hub.submitAll (command :: rest) = (hub.submit command).submitAll rest := rfl
    rw [hall, hrest, List.append_assoc]
    split
    · rw [← List.filter_append]
      rfl
    · rfl

theorem intake_register (hub : Hub) (a : Audience) : (hub.register a).2.intake =
    hub.intake ++ if hub.running then [.register ⟨hub.nextConnection⟩ a] else [] := by
  have hopened : hub.opened.intake = hub.intake := rfl
  rw [register_eq, intake_submit, hopened]
  rfl

theorem intake_logAll {entries : List Entry} (h : ∀ entry ∈ entries, entry.intake? = none) :
    (hub.logAll entries).intake = hub.intake := by
  have hnone : entries.filterMap Entry.intake? = [] := List.filterMap_eq_nil_iff.mpr h
  rw [intake, logAll, List.filterMap_append, hnone, List.append_nil, intake]

theorem intake_stop (hp : hub.pending = []) : hub.stop.intake = hub.intake := by
  simp [intake, stop, halt, log, List.filterMap_append, Entry.intake?, hp]

/-- Whether a happening lets nothing in, whatever the hub. -/
def Happening.isInternal : Happening → Bool
  | act (.unregister _) | act .askStats | act .step | act (.take _) | act (.refuseMore _)
  | act (.abandon _) | numbered | fetched _ => true
  | noted entries => entries.all fun entry => !entry.fromLoop
  | _ => false

theorem intake_happen {happening : Happening} (h : happening.isInternal = true) :
    (hub.happen happening).intake = hub.intake := by
  have hsubmit {hub' : Hub} (hsame : hub'.intake = hub.intake) {command : Command}
      (hc : command.enters = false) : (hub'.submit command).intake = hub.intake := by
    rw [intake_submit, hsame, List.filter_cons_of_neg (by simp [hc])]
    simp
  cases happening with
  | noted entries =>
    refine intake_logAll fun entry hentry => Entry.intake?_of_outside ?_
    simpa using List.all_eq_true.mp h entry hentry
  | numbered => rfl
  | fetched ticket => rfl
  | stopped => cases h
  | act act =>
    cases act with
    | unregister c => exact hsubmit rfl rfl
    | askStats => exact @hsubmit { hub with nextTicket := hub.nextTicket + 1 } rfl _ rfl
    | step => exact intake_step hub
    | take c => rfl
    | refuseMore c => rfl
    | abandon c => rfl
    | _ => cases h

theorem intake_undergo {course : List Happening}
    (h : ∀ happening ∈ course, happening.isInternal = true) :
    (hub.undergo course).intake = hub.intake := by
  induction course generalizing hub with
  | nil => rfl
  | cons first rest ih =>
    rw [undergo_cons, ih fun x hx => h x (List.mem_cons_of_mem _ hx)]
    exact intake_happen (h first List.mem_cons_self)

theorem internal_doings {acts : List Act}
    (h : ∀ act ∈ acts, (Happening.act act).isInternal = true) :
    ∀ happening ∈ doings acts, happening.isInternal = true := by
  intro happening hmem
  obtain ⟨act, hact, rfl⟩ := List.mem_map.mp hmem
  exact h act hact

/-! ### The table -/

/-- Whoever is in the table was let in. -/
def Vouched (hub : Hub) : Prop := ∀ c a, hub.registry.audiences.get? c = some a →
  .register c a ∈ hub.journal.filterMap Entry.intake?

theorem Vouched.mem_intake (h : hub.Vouched) {c : ConnectionId} {a : Audience}
    (hc : hub.registry.audiences.get? c = some a) : .register c a ∈ hub.intake :=
  List.mem_append_left _ (h c a hc)

theorem Vouched.apply (h : hub.Vouched) (command : Command) : (hub.apply command).Vouched := by
  intro c a hc
  rw [apply_intake, List.mem_append]
  rw [apply_registry, Command.audiences_enact] at hc
  cases command with
  | register c' a' =>
    simp only [Command.restate] at hc
    split at hc
    · rename_i hcc
      cases hc
      right
      rw [hcc]
      exact List.mem_singleton_self _
    · exact Or.inl (h c a hc)
  | unregister c' =>
    simp only [Command.restate] at hc
    split at hc
    · cases hc
    · exact Or.inl (h c a hc)
  | send m => exact Or.inl (h c a hc)
  | stats ticket => exact Or.inl (h c a hc)

/-- What changes no table and at most adds to the journal. -/
theorem Vouched.of_eq {hub' : Hub} (h : hub.Vouched) (hregistry : hub'.registry = hub.registry)
    (hjournal : hub.journal <+: hub'.journal) : hub'.Vouched := by
  intro c a hc
  rw [hregistry] at hc
  exact (hjournal.filterMap Entry.intake?).mem (h c a hc)

/-- Only the loop changes the table. -/
theorem perform_registry {act : Act} (h : act ≠ .step) :
    (hub.perform act).registry = hub.registry := by
  obtain ⟨_, _, _, _, _, hframe⟩ := hub.perform_frame h
  rw [hframe]

theorem Vouched.step (h : hub.Vouched) : hub.step.Vouched := by
  cases hp : hub.pending with
  | nil =>
    rw [step_nil hp]
    exact h
  | cons command rest =>
    have hpopped : (hub.popped rest).Vouched := h
    rw [step_cons hp]
    exact hpopped.apply command

theorem Vouched.happen (h : hub.Vouched) (happening : Happening) :
    (hub.happen happening).Vouched := by
  cases happening with
  | noted entries => exact h.of_eq rfl (List.prefix_append _ _)
  | numbered => exact h
  | fetched ticket => exact h
  | stopped =>
    intro c a hc
    cases hc
  | act act =>
    by_cases hstep : act = .step
    · subst hstep
      exact h.step
    · exact h.of_eq (perform_registry hstep) (perform_journal hub act)

theorem Vouched.undergo (h : hub.Vouched) (course : List Happening) :
    (hub.undergo course).Vouched := by
  induction course generalizing hub with
  | nil => exact h
  | cons first rest ih => exact ih (h.happen first)

end Hub

/-! ### What goes on by itself -/

theorem Writer.acts_internal (w : Writer) (box : Mailbox) :
    ∀ act ∈ w.acts box, (Hub.Happening.act act).isInternal = true := by
  intro act hact
  unfold acts at hact
  grind [Hub.Happening.isInternal]

theorem Writer.step_entries (w : Writer) (box : Mailbox) :
    ∀ entry ∈ (w.step box).2.2, entry.fromLoop = false := by
  unfold step writeInHand encodeTaken closeTransport
  grind [Entry.fromLoop]

theorem Reader.step_entries (r : Reader) : ∀ entry ∈ r.step.2.2, entry.fromLoop = false := by
  unfold step
  grind [Entry.fromLoop]

theorem Outcome.report_entries (o : Outcome) (side : Side) (c : ConnectionId) :
    ∀ entry ∈ o.report side c, entry.fromLoop = false := by
  cases o <;> simp [report, Entry.fromLoop]

theorem Pair.observeWriter_entries (p : Pair) :
    ∀ entry ∈ p.observeWriter.2.2, entry.fromLoop = false := by
  unfold observeWriter
  split
  · simp only [List.mem_append, List.mem_singleton]
    rintro entry (hentry | rfl)
    · exact Outcome.report_entries _ _ _ entry hentry
    · rfl
  · exact List.forall_mem_nil _

theorem Pair.observeReader_entries (p : Pair) :
    ∀ entry ∈ p.observeReader.2.2, entry.fromLoop = false := by
  unfold observeReader
  split
  · exact Outcome.report_entries _ _ _
  · exact List.forall_mem_nil _

namespace Session

open Hub (Happening)

theorem internal_handing {commands : List Command}
    (h : ∀ command ∈ commands, command.departs = true) :
    ∀ happening ∈ Hub.handing commands, happening.isInternal = true := by
  refine Hub.internal_doings fun act hact => ?_
  obtain ⟨command, hcommand, rfl⟩ := List.mem_map.mp hact
  cases command with
  | unregister c => rfl
  | _ => exact absurd (h _ hcommand) (by simp [Command.departs])

theorem internal_leaving {entries : List Entry} {commands : List Command}
    (hentries : ∀ entry ∈ entries, entry.fromLoop = false)
    (hcommands : ∀ command ∈ commands, command.departs = true) :
    ∀ happening ∈ Hub.leaving entries commands, happening.isInternal = true := by
  intro happening hmem
  rcases List.mem_cons.mp hmem with rfl | hmem
  · refine List.all_eq_true.mpr fun entry hentry => ?_
    rw [hentries entry hentry]
    rfl
  · exact internal_handing hcommands happening hmem

/-- What a move does to the hub lets nothing in. The loop ends only when nothing is pending. -/
theorem effect_cases (s : Session) (m : Move) :
    s.effect m = [.stopped] ∧ s.hub.pending = [] ∨
      ∀ happening ∈ s.effect m, happening.isInternal = true := by
  cases m with
  | apply => exact Or.inr (by simp [effect, Happening.isInternal])
  | stop =>
    by_cases h : (s.hub.running && s.hub.pending.isEmpty && !s.held) = true
    · simp only [Bool.and_eq_true, List.isEmpty_iff] at h
      exact Or.inl ⟨by simp [effect, h], h.1.2⟩
    · exact Or.inr (by simp [effect, h])
  | start i => exact Or.inr (List.forall_mem_nil _)
  | write i =>
    right
    simp only [effect]
    split
    · exact List.forall_mem_nil _
    · split
      · rename_i w box _ _
        intro happening hmem
        rcases List.mem_append.mp hmem with hmem | hmem
        · exact Hub.internal_doings (w.acts_internal box) happening hmem
        · rw [List.mem_singleton.mp hmem]
          refine List.all_eq_true.mpr fun entry hentry => ?_
          rw [w.step_entries box entry hentry]
          rfl
      · exact List.forall_mem_nil _
  | read i =>
    right
    simp only [effect]
    split
    · exact internal_leaving (Reader.step_entries _) (Reader.step_departs _)
    · exact List.forall_mem_nil _
  | observeWriter i =>
    right
    simp only [effect]
    split
    · exact internal_leaving (Pair.observeWriter_entries _) (Pair.observeWriter_departs _)
    · exact List.forall_mem_nil _
  | observeReader i =>
    right
    simp only [effect]
    split
    · exact internal_leaving (Pair.observeReader_entries _) (Pair.observeReader_departs _)
    · exact List.forall_mem_nil _
  | cancel i =>
    right
    simp only [effect]
    split
    · rename_i t _
      intro happening hmem
      rcases List.mem_append.mp hmem with hmem | hmem
      · split at hmem
        · rw [List.mem_singleton.mp hmem]
          rfl
        · cases hmem
      · exact internal_handing t.abort_departs happening hmem
    · exact List.forall_mem_nil _
  | giveUp i =>
    right
    simp only [effect]
    split
    · simp [Happening.isInternal, Entry.fromLoop]
    · exact List.forall_mem_nil _

@[simp] theorem intake_perform (s : Session) (m : Move) : (s.perform m).hub.intake = s.hub.intake := by
  rw [s.perform_hub m]
  rcases s.effect_cases m with ⟨hstopped, hp⟩ | hinternal
  · rw [hstopped]
    exact Hub.intake_stop hp
  · exact Hub.intake_undergo hinternal

theorem intake_performAll (s : Session) (moves : List Move) :
    (s.performAll moves).hub.intake = s.hub.intake := by
  induction moves generalizing s with
  | nil => rfl
  | cons m rest ih => exact (ih (s.perform m)).trans (s.intake_perform m)

/-- Settling lets nothing in. -/
theorem intake_settle (s : Session) : s.settle.hub.intake = s.hub.intake := by
  obtain ⟨due, resting, hs⟩ := settle_eq s
  rw [hs]
  exact s.intake_performAll s.settleMoves

theorem closeCourse_internal (s : Session) (i : Nat) :
    ∀ happening ∈ s.closeCourse i, happening.isInternal = true := by
  unfold closeCourse
  split
  · exact List.forall_mem_nil _
  · simp [Hub.doings, Happening.isInternal]

theorem readCourse_internal (s : Session) (i : Nat) (limit : Option Nat) :
    ∀ happening ∈ s.readCourse i limit, happening.isInternal = true := by
  unfold readCourse
  split
  · exact List.forall_mem_nil _
  · split
    · exact List.forall_mem_nil _
    · intro happening hmem
      rcases List.mem_append.mp hmem with hmem | hmem
      · refine Hub.internal_doings (fun act hact => ?_) happening hmem
        rw [(List.mem_replicate.mp hact).2]
        rfl
      · split at hmem
        · simp only [Hub.doings, List.map_cons, List.map_nil, List.mem_cons, List.not_mem_nil,
            or_false] at hmem
          rcases hmem with rfl | rfl | rfl <;> rfl
        · cases hmem

theorem intake_closeStream (s : Session) (i : Nat) :
    (s.closeStream i).hub.intake = s.hub.intake := by
  rw [s.closeStream_course i]
  exact Hub.intake_undergo (s.closeCourse_internal i)

theorem lastLines_entries (d : DomainEvent) :
    ∀ entry ∈ lastLines d, entry.fromLoop = false := by
  unfold lastLines
  split
  · simp [Entry.fromLoop]
  · exact List.forall_mem_nil _

/-- A domain event has messages let in, if anything. -/
theorem intake_handle (s : Session) (d : DomainEvent) : ∃ messages : List Message,
    (s.handle d).2.hub.intake = s.hub.intake ++ messages.map .send := by
  have hlines : ∀ entry ∈ lastLines d, entry.intake? = none := fun entry hentry =>
    Entry.intake?_of_outside (lastLines_entries d entry hentry)
  have hhub : (s.handle d).2.hub = ((s.hub.log (.handling d.name)).submitAll
      (d.plan.messages.map .send)).logAll (lastLines d) := by
    rw [s.handle_hub d, handleCourse, Hub.undergo_append, Hub.undergo_leaving _ ?_]
    · rfl
    · simp [Command.isPlain]
  have hfirst : (s.hub.log (.handling d.name)).intake = s.hub.intake :=
    @Hub.intake_logAll s.hub [.handling d.name] (by simp [Entry.intake?])
  rw [hhub, Hub.intake_logAll hlines, Hub.intake_submitAll, hfirst]
  split
  · refine ⟨d.plan.messages, ?_⟩
    rw [List.filter_eq_self.mpr]
    simp [Command.enters]
  · exact ⟨[], rfl⟩

theorem intake_publish (s : Session) (d : DomainEvent) : ∃ messages : List Message,
    (s.publish d).2.hub.intake = s.hub.intake ++ messages.map .send := by
  obtain ⟨messages, hmessages⟩ := intake_handle (s.log (.publishing d.name 1)) d
  have hfirst : (s.log (.publishing d.name 1)).hub.intake = s.hub.intake :=
    @Hub.intake_logAll s.hub [.publishing d.name 1] (by simp [Entry.intake?])
  rw [hfirst] at hmessages
  exact ⟨messages, hmessages⟩

theorem intake_stats (s : Session) : s.stats.2.hub.intake = s.hub.intake := by
  let asked : Session := { s with hub := s.hub.askStats.2 }
  have hasked : asked.hub.intake = s.hub.intake :=
    @Hub.intake_happen s.hub (.act .askStats) rfl
  exact (intake_settle asked).trans hasked

end Session
end LiveUpdate
