import LiveUpdate.Proofs.WriterLedger

/-! How a connection ends that a pair of pumps tends. Whatever the client, the transport, the
encoder and the hub do, the hub is told that the connection goes once the inbound side or the writer
has come to its end, and not before; and a writer that ends in order has written all there was. -/
namespace LiveUpdate

/-- Whether a pump has come to its end by itself, and without a breakdown. -/
def Outcome.isOver : Outcome → Bool
  | finished | stopped _ => true
  | _ => false

@[simp] theorem Outcome.isOver_start (o : Outcome) : o.start.isOver = o.isOver := by
  cases o <;> rfl

theorem Outcome.isLive_start (o : Outcome) : o.start.isLive = o.isLive := by
  cases o <;> rfl

namespace Reader

@[simp] theorem isOver_cancel (r : Reader) : r.cancel.outcome.isOver = r.outcome.isOver := by
  unfold cancel
  split
  · rename_i hl
    cases ho : r.outcome <;> simp [ho, Outcome.isOver, Outcome.isLive] at hl ⊢
  · rfl

/-- Whether the inbound side has something in it after which nothing is read. -/
def senses (r : Reader) : Bool := r.ended || r.arrived.any Inbound.isTerminal

theorem senses_cancel (r : Reader) : r.cancel.senses = r.senses := by
  unfold cancel
  split <;> rfl

theorem senses_receive {r : Reader} {frame : Inbound} (h : (r.receive frame).senses = true) :
    r.senses = true ∨ frame.isTerminal = true := by
  unfold receive at h
  split at h
  · simp only [senses, List.any_append, List.any_cons, List.any_nil, Bool.or_false,
      Bool.or_eq_true] at h ⊢
    exact (or_assoc.mpr h)
  · exact Or.inl h

/-- A step of the reader: it goes on and says nothing, or it has met the end and says so. -/
theorem step_over (r : Reader) : (r.step.1.senses = true → r.senses = true) ∧
    (r.step.2.1 = [] ∧ r.step.1.outcome = r.outcome ∨
      r.step.2.1 ≠ [] ∧ r.step.1.outcome.isOver = true ∧ r.senses = true) := by
  unfold step
  by_cases hr : r.outcome = .running
  · rw [if_pos hr]
    cases ha : r.arrived with
    | nil =>
      by_cases he : r.ended = true
      · simp [he, senses, Outcome.isOver]
      · simp [he]
    | cons frame rest =>
      cases frame with
      | close => simp [senses, ha, Inbound.isTerminal, Outcome.isOver]
      | failure why => simp [senses, ha, Inbound.isTerminal, Outcome.isOver]
      | _ => simp [senses, ha, Inbound.isTerminal]
  · rw [if_neg hr]
    exact ⟨id, Or.inl ⟨rfl, rfl⟩⟩

end Reader

namespace Pair

/-- When the hub is told that the connection goes: as soon as the supervisor has returned or the
reader has finished, and for a reason. -/
structure Heeds (p : Pair) (told : List Command) (ended : Prop) : Prop where
  due : p.stage = .returned ∨ p.reader.outcome.isOver = true → told ≠ []
  cause : told ≠ [] → p.reader.outcome.isOver = true ∨ p.writer.outcome.isLive = false
  noticed : p.reader.outcome.isOver = true ∨ p.reader.senses = true → ended

variable {p : Pair} {box : Mailbox} {told : List Command} {ended : Prop}

theorem heeds_new (c : ConnectionId) (encode : Encoder) (sink : Sink) :
    (Pair.new c encode sink).Heeds [] False where
  due h := by simp [new, Reader.new, Outcome.isOver] at h
  cause h := absurd rfl h
  noticed h := by simp [new, Reader.new, Outcome.isOver, Reader.senses] at h

/-- What neither ends a pump nor brings the inbound side nearer to its end. -/
theorem Heeds.of_eq {p' : Pair} (h : p.Heeds told ended)
    (hstage : p'.stage = .returned → p.stage = .returned)
    (hreader : p'.reader.outcome.isOver = p.reader.outcome.isOver)
    (hsenses : p'.reader.senses = true → p.reader.senses = true)
    (hwriter : p.writer.outcome.isLive = false → p'.writer.outcome.isLive = false) :
    p'.Heeds told ended where
  due hd := h.due (hd.imp hstage fun ho => hreader ▸ ho)
  cause ht := (h.cause ht).imp (fun ho => hreader ▸ ho) hwriter
  noticed hn := h.noticed (hn.imp (fun ho => hreader ▸ ho) hsenses)

theorem Heeds.mono (h : p.Heeds told ended) {ended' : Prop} (he : ended → ended') :
    p.Heeds told ended' := ⟨h.due, h.cause, fun hn => he (h.noticed hn)⟩

/-- Each deed of a pair heeds the rule. -/
theorem Heeds.after (h : p.Heeds told ended) (box : Mailbox) (deed : Deed) :
    (p.after box deed).pair.Heeds (told ++ (p.after box deed).commands)
      (ended ∨ deed.endsInput = true) := by
  -- A deed that tells nothing has only the clause on the inbound side to weaken.
  have hold : p.Heeds (told ++ []) (ended ∨ deed.endsInput = true) := by
    rw [List.append_nil]
    exact h.mono Or.inl
  cases deed with
  | hub act => exact hold
  | start =>
    rcases p.start_cases with hstart | ⟨hstage, hw, hr⟩
    · rw [Pair.after, hstart]
      exact hold
    · refine hold.of_eq (fun hs => ?_) ?_ ?_ ?_ <;> simp only [Pair.after] at *
      · rw [hstage] at hs
        cases hs
      · rw [hr, Outcome.isOver_start]
      · rw [hr]
        exact id
      · rw [hw, Outcome.isLive_start]
        exact id
  | write =>
    refine hold.of_eq id rfl id fun hl => ?_
    rw [Pair.after, Writer.step_of_ended hl]
    exact hl
  | read =>
    obtain ⟨hsenses, hidle | ⟨htold, hover, hsensed⟩⟩ := p.reader.step_over
    · simp only [Pair.after, hidle.1]
      exact hold.of_eq id (by rw [hidle.2]) hsenses id
    · refine ⟨fun _ => ?_, fun _ => Or.inl hover, fun _ => ?_⟩
      · exact List.append_ne_nil_of_right_ne_nil _ htold
      · exact Or.inl (h.noticed (Or.inr hsensed))
  | observeWriter =>
    rcases p.observeWriter_cases with hidle | ⟨hl, -, hw, hr, hcommands⟩
    · simp only [Pair.after, hidle]
      exact hold
    · have hreader : (p.observeWriter.1.reader.outcome.isOver = p.reader.outcome.isOver) ∧
          p.observeWriter.1.reader.senses = p.reader.senses := by
        rcases hr with hr | hr <;> rw [hr]
        · exact ⟨rfl, rfl⟩
        · exact ⟨p.reader.isOver_cancel, p.reader.senses_cancel⟩
      simp only [Pair.after]
      refine ⟨fun _ => ?_, fun _ => Or.inr ?_, fun hn => ?_⟩
      · rw [hcommands]
        simp
      · rw [hw]
        exact hl
      · rw [hreader.1, hreader.2] at hn
        exact Or.inl (h.noticed hn)
  | observeReader =>
    obtain ⟨hw, hr, hcommands, hstage⟩ := p.observeReader_cases
    simp only [Pair.after, hcommands]
    refine hold.of_eq (fun hs => ?_) (by rw [hr]) (by rw [hr]; exact id) (by rw [hw]; exact id)
    rcases hstage with he | he
    · exact he.symm.trans hs
    · rw [he] at hs
      cases hs
  | arrive frame =>
    simp only [Pair.after, List.append_nil]
    refine ⟨fun hd => h.due (by simpa using hd), fun ht => ?_, fun hn => ?_⟩
    · rw [p.reader.receive_outcome frame]
      exact h.cause ht
    · rw [p.reader.receive_outcome frame] at hn
      rcases hn with ho | hs
      · exact Or.inl (h.noticed (Or.inl ho))
      · exact (Reader.senses_receive hs).imp_left fun hs => h.noticed (Or.inr hs)
  | endInput =>
    simp only [Pair.after, List.append_nil]
    exact ⟨h.due, h.cause, fun _ => Or.inr rfl⟩
  | setReady ready => exact hold.of_eq id rfl id id

end Pair

namespace Hub

variable {hub : Hub} {c : ConnectionId}

theorem deliver_journal (e : Event) (hub : Hub) (c : ConnectionId) :
    hub.journal <+: (deliver e hub c).journal := by
  unfold deliver
  split
  · split
    · exact List.prefix_rfl
    · exact List.prefix_append _ _
    · exact List.prefix_append _ _
  · exact List.prefix_rfl

theorem foldl_deliver_journal (e : Event) (cs : List ConnectionId) (hub : Hub) :
    hub.journal <+: (cs.foldl (deliver e) hub).journal := by
  induction cs generalizing hub with
  | nil => exact List.prefix_rfl
  | cons c rest ih => exact (deliver_journal e hub c).trans (ih (deliver e hub c))

theorem apply_journal (hub : Hub) (command : Command) :
    hub.journal <+: (hub.apply command).journal := by
  cases command with
  | register c a => exact List.prefix_append _ _
  | unregister c =>
    simp only [apply]
    split <;> exact List.prefix_append _ _
  | send m => exact (foldl_deliver_journal _ _ hub).trans (List.prefix_append _ _)
  | stats ticket => exact List.prefix_rfl

theorem submit_journal (hub : Hub) (command : Command) :
    hub.journal <+: (hub.submit command).journal := by
  unfold submit
  split
  · exact List.prefix_rfl
  · exact List.prefix_append _ _

/-- Nothing is taken out of the journal. -/
theorem perform_journal (hub : Hub) (act : Act) : hub.journal <+: (hub.perform act).journal := by
  have hsendTo (audiences : List Audience) (e : Event) :
      hub.journal <+: (hub.sendTo audiences e).journal := by
    rw [sendTo]
    split
    · exact List.prefix_append _ _
    · exact submit_journal hub _
  cases act with
  | register a => exact submit_journal hub.opened _
  | unregister c => exact submit_journal hub _
  | send m => exact submit_journal hub _
  | sendTo audiences e => exact hsendTo audiences e
  | sendToStudents students e => exact hsendTo _ e
  | askStats => exact submit_journal { hub with nextTicket := hub.nextTicket + 1 } _
  | step =>
    cases hp : hub.pending with
    | nil => exact (congrArg journal (step_nil hp)).symm ▸ List.prefix_rfl
    | cons command rest =>
      rw [perform, step_cons hp]
      exact apply_journal (hub.popped rest) command
  | take c => exact List.prefix_rfl
  | refuseMore c => exact List.prefix_rfl
  | abandon c => exact List.prefix_rfl

/-- A mailbox that nobody reads any more gets nothing. -/
theorem enqueuing_of_gone {box : Mailbox} (hbox : hub.mailbox? c = some box)
    (hgone : box.intake = .gone) (act : Act) : hub.enqueuing c act = [] := by
  cases act with
  | step =>
    refine List.filter_eq_nil_iff.mpr fun e _ => ?_
    simp [hbox, Mailbox.offer, hgone]
  | _ => rfl

theorem afterDeed_journal (hr : hub.running = true) {upshot : Pair.Upshot}
    (h : upshot.commands = [] ∨ upshot.commands = [.unregister c]) :
    (hub.afterDeed c upshot).journal = hub.journal ++ upshot.entries := by
  rcases h with h | h
  · rw [afterDeed, h]
    rfl
  · have hrunning : ((hub.updateMailbox c fun _ => upshot.box).logAll upshot.entries).running =
        true := hr
    rw [afterDeed, h]
    exact congrArg journal (if_pos hrunning)

/-- What a pair does keeps a connection out that is on its way out, and lets nothing new come up. -/
theorem afterDeed_of_none (hnone : hub.prospect c = none) {upshot : Pair.Upshot}
    (h : upshot.commands = [] ∨ upshot.commands = [.unregister c]) :
    (hub.afterDeed c upshot).prospect c = none ∧
      (hub.afterDeed c upshot).expecting c = hub.expecting c := by
  rcases h with h | h
  · rw [afterDeed, h]
    exact ⟨hnone, rfl⟩
  · have hlogged : ((hub.updateMailbox c fun _ => upshot.box).logAll upshot.entries).prospect c =
        none := hnone
    rw [afterDeed, h]
    exact ⟨prospect_submit_of_quiet hlogged rfl, expecting_submit_of_none hlogged _⟩

end Hub

namespace Session

variable {s : Session} {i : Nat} {c : ConnectionId} {p : Pair} {box : Mailbox} {encode : Encoder}
  {sink : Sink} {told : List Command} {ended : Prop} {events : List Event}

/-- Everything that holds of a pair which tends a connection: what it has told the hub so far,
whether its inbound side has come to an end, and what the hub has enqueued for it. -/
structure Tended (s : Session) (i : Nat) (c : ConnectionId) (encode : Encoder) (sink : Sink)
    (told : List Command) (ended : Prop) (events : List Event) (p : Pair) (box : Mailbox) : Prop
    extends s.Tends i c p box where
  heeds : p.Heeds told ended
  accounts : p.writer.Accounts box encode sink events s.hub.journal
  only : ∀ command ∈ told, command = .unregister c
  gone : told ≠ [] → s.hub.prospect c = none

theorem Tended.conduct_hub (h : s.Tended i c encode sink told ended events p box)
    {act : Hub.Act} (hact : act.receiver? ≠ some c) :
    ∃ box', (s.conduct i (.hub act)).Tended i c encode sink told ended
      (events ++ s.enqueuing c (.hub act)) p box' := by
  obtain ⟨box', htends, hintake, hwaiting⟩ := h.toTends.conduct_hub hact
  refine ⟨box', htends, h.heeds, ?_, h.only, fun ht => ?_⟩
  · have henqueued := h.accounts.enqueue hintake hwaiting fun hgone =>
      Hub.enqueuing_of_gone h.mailbox hgone act
    exact henqueued.mono fun entry hmem => (Hub.perform_journal s.hub act).mem hmem
  · exact Hub.prospect_perform_of_none (h.gone ht) h.toTends.known act

/-- The writer's accounts after a deed of the pair. -/
theorem Tended.accounts_after (h : s.Tended i c encode sink told ended events p box) (deed : Deed) :
    (p.after box deed).pair.writer.Accounts (p.after box deed).box encode sink events
      (s.hub.journal ++ (p.after box deed).entries) := by
  have hgrown (entries : List Entry) :
      p.writer.Accounts box encode sink events (s.hub.journal ++ entries) :=
    h.accounts.mono fun entry hmem => List.mem_append_left _ hmem
  cases deed with
  | hub act => exact hgrown _
  | start =>
    rcases p.start_cases with hstart | ⟨-, hw, -⟩
    · rw [Pair.after, hstart]
      exact hgrown _
    · rw [Pair.after, hw]
      exact (hgrown _).start
  | write => exact h.accounts.step
  | read => exact hgrown _
  | observeWriter =>
    have hw : p.observeWriter.1.writer = p.writer := by
      rcases p.observeWriter_cases with hidle | ⟨-, -, hw, -⟩
      · rw [hidle]
      · exact hw
    rw [Pair.after, hw]
    exact hgrown _
  | observeReader =>
    rw [Pair.after, p.observeReader_cases.1]
    exact hgrown _
  | arrive frame => exact hgrown _
  | endInput => exact hgrown _
  | setReady ready => exact (hgrown _).setReady ready

theorem Tended.conduct_own (h : s.Tended i c encode sink told ended events p box) {deed : Deed}
    (hd : deed.act? = none) :
    (s.conduct i deed).Tended i c encode sink (told ++ s.tells i deed)
      (ended ∨ deed.endsInput = true) events (p.after box deed).pair (p.after box deed).box := by
  obtain ⟨htends, htells⟩ := h.toTends.conduct_own hd
  obtain ⟨-, hhub⟩ := h.toTends.conduct_eq hd
  obtain ⟨-, -, -, hcommands⟩ :=
    Pair.after_shared (h.reader.trans h.connection.symm) box deed
  rw [h.connection] at hcommands
  rw [htells]
  refine ⟨htends, h.heeds.after box deed, ?_, ?_, ?_⟩
  · rw [hhub, Hub.afterDeed_journal h.running hcommands]
    exact h.accounts_after deed
  · intro command hmem
    rcases List.mem_append.mp hmem with hmem | hmem
    · exact h.only command hmem
    · rcases hcommands with hnone | hone
      · rw [hnone] at hmem
        cases hmem
      · rw [hone] at hmem
        exact List.mem_singleton.mp hmem
  · intro ht
    rw [hhub]
    rcases hcommands with hnone | hone
    · rw [hnone, List.append_nil] at ht
      exact (Hub.afterDeed_of_none (h.gone ht) (Or.inl hnone)).1
    · have hrunning : ((s.hub.updateMailbox c fun _ => (p.after box deed).box).logAll
          (p.after box deed).entries).running = true := h.running
      rw [Hub.afterDeed, hone]
      exact Hub.prospect_unregister hrunning

theorem recount_cons {α : Type} (f : Session → Deed → List α) (deed : Deed) (rest : List Deed) :
    recount f i s (deed :: rest) = f s deed ++ recount f i (s.conduct i deed) rest := rfl

/-- Deed by deed, a pair tends its connection. -/
theorem Tended.conductAll (h : s.Tended i c encode sink told ended events p box)
    {deeds : List Deed} (hdeeds : ∀ deed ∈ deeds, deed.receiver? ≠ some c) :
    ∃ p' box', (s.conductAll i deeds).Tended i c encode sink (told ++ s.told i deeds)
      (ended ∨ ∃ deed ∈ deeds, deed.endsInput = true) (events ++ s.enqueued i c deeds) p' box' := by
  induction deeds generalizing s told ended events p box with
  | nil =>
    have htold : told ++ s.told i [] = told := List.append_nil _
    have hevents : events ++ s.enqueued i c [] = events := List.append_nil _
    rw [htold, hevents]
    exact ⟨p, box, { h with heeds := h.heeds.mono Or.inl }⟩
  | cons deed rest ih =>
    have hrest : ∀ deed' ∈ rest, deed'.receiver? ≠ some c := fun deed' hmem =>
      hdeeds deed' (List.mem_cons_of_mem _ hmem)
    have hended : (ended ∨ deed.endsInput = true) ∨ (∃ deed ∈ rest, deed.endsInput = true) →
        ended ∨ ∃ deed' ∈ deed :: rest, deed'.endsInput = true := by
      rintro ((he | he) | ⟨deed', hmem, he⟩)
      · exact Or.inl he
      · exact Or.inr ⟨deed, List.mem_cons_self, he⟩
      · exact Or.inr ⟨deed', List.mem_cons_of_mem _ hmem, he⟩
    -- Either the pair acts itself, or something happens at the hub beside it.
    have hstep : ∃ p' box', (s.conduct i deed).Tended i c encode sink (told ++ s.tells i deed)
        (ended ∨ deed.endsInput = true) (events ++ s.enqueuing c deed) p' box' := by
      cases hact : deed.act? with
      | none =>
        have hown := h.conduct_own hact
        have hnothing : s.enqueuing c deed = [] := by rw [enqueuing, hact]
        rw [hnothing, List.append_nil]
        exact ⟨_, _, hown⟩
      | some act =>
        obtain rfl := Deed.eq_hub hact
        obtain ⟨box', hhub⟩ := h.conduct_hub (hdeeds (.hub act) List.mem_cons_self)
        have hnothing : s.tells i (.hub act) = [] := rfl
        rw [hnothing, List.append_nil]
        exact ⟨p, box', { hhub with heeds := hhub.heeds.mono Or.inl }⟩
    obtain ⟨p₁, box₁, h₁⟩ := hstep
    obtain ⟨p', box', h'⟩ := ih h₁ hrest
    rw [List.append_assoc, List.append_assoc] at h'
    exact ⟨p', box', { h' with heeds := h'.heeds.mono hended }⟩

/-- Once the hub has been told, nothing is enqueued that was not pending by then. -/
theorem Tends.enqueued_of_none (h : s.Tends i c p box) (hnone : s.hub.prospect c = none)
    {later : List Deed} (hlater : ∀ deed ∈ later, deed.receiver? ≠ some c) :
    (s.enqueued i c later).Sublist (s.hub.expecting c) := by
  induction later generalizing s p box with
  | nil => exact List.nil_sublist _
  | cons deed rest ih =>
    have hrest : ∀ deed' ∈ rest, deed'.receiver? ≠ some c := fun deed' hmem =>
      hlater deed' (List.mem_cons_of_mem _ hmem)
    rw [enqueued, recount_cons]
    -- What can still come up only shrinks: by the event that is enqueued, or not at all.
    cases hact : deed.act? with
    | none =>
      obtain ⟨-, -, -, hcommands⟩ :=
        Pair.after_shared (h.reader.trans h.connection.symm) box deed
      rw [h.connection] at hcommands
      obtain ⟨hprospect, hexpecting⟩ := Hub.afterDeed_of_none hnone hcommands
      rw [← (h.conduct_eq hact).2] at hprospect hexpecting
      have hnothing : s.enqueuing c deed = [] := by rw [enqueuing, hact]
      rw [hnothing, ← hexpecting]
      exact ih (h.conduct_own hact).1 hprospect hrest
    | some act =>
      obtain rfl := Deed.eq_hub hact
      obtain ⟨box', htends, -⟩ := h.conduct_hub (hlater (.hub act) List.mem_cons_self)
      have hprospect := Hub.prospect_perform_of_none hnone h.known act
      have hlast := ih htends hprospect hrest
      exact (hlast.append_left _).trans (Hub.expecting_perform_of_none hnone act)

/-- A pair that is handed a new registration, some time after it was made, begins to tend it. -/
theorem tended_runPair (ho : s.hub.Orderly) (hr : s.hub.running = true) (a : Audience)
    (encode : Encoder) (sink : Sink) {before : List Hub.Act}
    (hbefore : ∀ act ∈ before, act.receiver? ≠ some (s.register a).1) :
    let c := (s.register a).1
    let registered := (s.register a).2
    let handed := registered.onHub (·.run before)
    ∃ p box, (handed.runPair c encode sink).2.Tended (handed.runPair c encode sink).1 c encode sink
      [] False (registered.hub.enqueued c before) p box := by
  intro c registered handed
  have horderly : registered.hub.Orderly := ho.register a
  obtain ⟨box, hbox, hintake, hwaiting⟩ := Hub.mailbox?_run horderly hbefore
    (Hub.mailbox?_register hr a)
  have hevents : box.waiting = registered.hub.enqueued c before := hwaiting
  have hrunning : (registered.hub.run before).running = true :=
    (Hub.run_running before).trans ((Hub.submit_running _).trans hr)
  refine ⟨.new c encode sink, box, ⟨horderly.run before, hrunning, ?_, rfl, rfl, hbox⟩,
    Pair.heeds_new c encode sink, ?_, List.forall_mem_nil _, fun hnil => absurd rfl hnil⟩
  · show (handed.tasks.insert handed.next _).get? handed.next = _
    rw [Table.get?_insert, if_pos rfl]
  · rw [← hevents]
    exact Writer.accounts_new c encode sink hintake _

/-! ### Every end of a connection -/

/-- A pair is handed a new registration. Whatever client, transport, encoder and hub do, and in
whichever order the supervisor learns of the ends of its pumps:

* once the supervisor has returned, or the reader has finished, the hub has been told that the
  connection goes. When it has caught up, the connection is not in the table; and what is enqueued
  for it meanwhile was pending already.
* The hub has been told nothing else, and nothing before the inbound side or the writer has ended.
* A writer that has ended without a failed write and without a breakdown has written all that was
  enqueued and can be encoded, in order; if it could close the transport, it has. -/
theorem connection_torn_down (ho : s.hub.Orderly) (hr : s.hub.running = true) (a : Audience)
    (encode : Encoder) (sink : Sink) {before : List Hub.Act} {deeds : List Deed}
    (hbefore : ∀ act ∈ before, act.receiver? ≠ some (s.register a).1)
    (hdeeds : ∀ deed ∈ deeds, deed.receiver? ≠ some (s.register a).1) :
    let c := (s.register a).1
    let registered := (s.register a).2
    let handed := registered.onHub (·.run before)
    let i := (handed.runPair c encode sink).1
    let opened := (handed.runPair c encode sink).2
    let last := opened.conductAll i deeds
    let told := opened.told i deeds
    let events := registered.hub.enqueued c before ++ opened.enqueued i c deeds
    ∃ p, last.tasks.get? i = some (.paired p) ∧ p.connection = c ∧
      (p.stage = .returned ∨ p.reader.outcome.isOver = true →
        .unregister c ∈ told ∧ last.hub.catchUp.registry.audiences.get? c = none ∧
          ∀ later : List Deed, (∀ deed ∈ later, deed.receiver? ≠ some c) →
            (last.enqueued i c later).Sublist (last.hub.expecting c) ∧
              (last.hub.pending = [] → last.enqueued i c later = [])) ∧
      (∀ command ∈ told, command = .unregister c) ∧
      (told ≠ [] → p.writer.outcome.isLive = false ∨
        p.reader.outcome.isOver = true ∧ ∃ deed ∈ deeds, deed.endsInput = true) ∧
      (p.writer.outcome.isLive = false → (∀ words, p.writer.outcome ≠ .panicked words) →
        (∀ why, .writeFailed c why ∉ last.hub.journal) →
        p.writer.sink.sent = sink.sent ++ encode.frames events ++
            (if p.writer.outcome = .finished then sink.farewell.toList else []) ∧
          (p.writer.outcome = .finished → p.writer.sink.closed = true)) := by
  intro c registered handed i opened last told events
  obtain ⟨p₀, box₀, h₀⟩ := tended_runPair ho hr a encode sink hbefore
  obtain ⟨p, box, h⟩ := h₀.conductAll hdeeds
  refine ⟨p, h.task, h.connection, fun hover => ?_, h.only, fun ht => ?_, fun hl hp hw => ?_⟩
  · have ht : told ≠ [] := h.heeds.due hover
    have hnone : last.hub.prospect c = none := h.gone ht
    refine ⟨?_, (Hub.audiences_catchUp _ c).trans hnone, fun later hlater => ?_⟩
    · obtain ⟨command, hmem⟩ := List.exists_mem_of_ne_nil told ht
      rw [← h.only command hmem]
      exact hmem
    · have hlate := h.toTends.enqueued_of_none hnone hlater
      refine ⟨hlate, fun hpending => ?_⟩
      have hnothing : last.hub.expecting c = [] := by
        rw [Hub.expecting, hpending]
        rfl
      exact List.sublist_nil.mp (hnothing ▸ hlate)
  · rcases h.heeds.cause ht with hover | hl
    · exact Or.inr ⟨hover, (h.heeds.noticed (Or.inl hover)).resolve_left id⟩
    · exact Or.inl hl
  · cases ho : p.writer.outcome with
    | finished =>
      obtain ⟨hsent, hclosed⟩ := h.accounts.finished ho
      exact ⟨by rw [if_pos rfl]; exact hsent, fun _ => hclosed⟩
    | stopped why =>
      have hnot : Outcome.stopped why ≠ .finished := Outcome.noConfusion
      refine ⟨?_, fun hf => absurd hf hnot⟩
      rcases h.accounts.stopped why ho with ⟨why', hfailed⟩ | hsent
      · have hc : p.writer.connection = c := h.connection
        rw [hc] at hfailed
        exact absurd hfailed (hw why')
      · rw [if_neg hnot, List.append_nil]
        exact hsent
    | panicked words => exact absurd ho (hp words)
    | cancelled => exact absurd ho h.accounts.uncut
    | idle => simp [ho, Outcome.isLive] at hl
    | running => simp [ho, Outcome.isLive] at hl

/-- A client closes while two more events are pending for it, one of which cannot be encoded. Both
are still dealt with; what is submitted after the close is not enqueued any more. -/
theorem connection_torn_down_student :
    let fresh := start 4 (by decide)
    let greet : Hub.Act := .send ⟨.broadcast, .hello⟩
    let odd : Event := ⟨"odd", "", by decide, by decide, by decide⟩
    let encode : Encoder := fun e => if e = odd then .refused (.transport none) else Encoder.json e
    let before : List Hub.Act := [.step, greet]
    let deeds : List Deed := [.hub .step, .start, .write, .hub (.send ⟨.broadcast, odd⟩),
      .hub greet, .arrive .text, .arrive .close, .read, .read, .hub greet, .write, .observeReader,
      .hub .step, .hub .step, .hub .step, .hub .step, .write, .write, .write, .write,
      .observeWriter]
    let c := (fresh.register (.student 5)).1
    let handed := (fresh.register (.student 5)).2.onHub (·.run before)
    let i := (handed.runPair c encode .polite).1
    let opened := (handed.runPair c encode .polite).2
    let last := opened.conductAll i deeds
    fresh.hub.Orderly ∧ fresh.hub.running = true ∧
      opened.told i deeds = [.unregister c, .unregister c] ∧
      opened.enqueued i c deeds = [.hello, odd, .hello] ∧
      last.hub.catchUp.registry.audiences.get? c = none ∧
      ∃ p, last.tasks.get? i = some (.paired p) ∧ p.stage = .returned ∧
        p.writer.sink.sent =
          [.text (Frame.json .hello), .text (Frame.json .hello), .close none] := by
  intro fresh greet odd encode before deeds c handed i opened last
  have horderly : fresh.hub.Orderly := Hub.orderly_start 4 (by decide)
  have hbefore : ∀ act ∈ before, act.receiver? ≠ some c := by decide
  have hdeeds : ∀ deed ∈ deeds, deed.receiver? ≠ some c := by decide
  have hquiet : (last.hub.journal.all fun entry => match entry with
      | .writeFailed _ _ => false
      | _ => true) = true := by decide +kernel
  have hends : ((last.tasks.get? i).bind Task.pair?).map (fun p => (p.stage, p.writer.outcome)) =
      some (.returned, .finished) := by decide +kernel
  have htold : opened.told i deeds = [.unregister c, .unregister c] := by decide +kernel
  have hevents : opened.enqueued i c deeds = [.hello, odd, .hello] := by decide +kernel
  -- What holds of the last session is carried over along an equation of sessions, which is cheaper
  -- to check than one of their journals or tables.
  have hfailed : ∀ s, s = last → ∀ why, .writeFailed c why ∉ s.hub.journal := by
    rintro s hs why hmem
    rw [hs] at hmem
    cases List.all_eq_true.mp hquiet _ hmem
  have hcarry : ∀ s : Session, s.hub.catchUp.registry.audiences.get? c = none → s = last →
      last.hub.catchUp.registry.audiences.get? c = none := fun s hnone hs => hs ▸ hnone
  obtain ⟨p, htask, -, hgone, -, -, hwritten⟩ :=
    connection_torn_down horderly rfl (.student 5) encode .polite hbefore hdeeds
  rw [htask] at hends
  obtain ⟨hstage, hwriter⟩ := Prod.mk.inj (Option.some.inj hends)
  have hended : p.writer.outcome.isLive = false := by rw [hwriter]; rfl
  have hsound : ∀ words, p.writer.outcome ≠ .panicked words := by
    rw [hwriter]
    exact fun words => Outcome.noConfusion
  obtain ⟨hsent, -⟩ := hwritten hended hsound (hfailed _ rfl)
  rw [if_pos hwriter] at hsent
  refine ⟨horderly, rfl, htold, hevents, hcarry _ (hgone (Or.inl hstage)).2.1 rfl, p, htask, hstage,
    hsent.trans ?_⟩
  decide +kernel

end Session
end LiveUpdate
