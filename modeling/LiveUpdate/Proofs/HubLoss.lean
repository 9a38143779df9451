import LiveUpdate.Proofs.Notices
import LiveUpdate.Proofs.Receivers
import LiveUpdate.Proofs.SubmissionOrder

/-! The loss of the hub. When the control loop is destroyed while handles live on, all that is done
with them comes to its end without effect: no event gets into a mailbox any more, and every figure is
zero. The mailboxes give out what was put into them before, in order, and then their end. -/
namespace LiveUpdate

/-! ### The loop is gone -/

namespace Hub

variable {hub : Hub} {c : ConnectionId} {course : List Happening}

theorem isDone_halt (hub : Hub) : hub.halt.IsDone := ⟨rfl, rfl, rfl⟩

theorem Orderly.halt (h : hub.Orderly) : hub.halt.Orderly :=
  h.stop.of_eq rfl rfl (fun _ => rfl) (Nat.le_refl _)

theorem waitingFor_halt (hub : Hub) (c : ConnectionId) :
    hub.halt.waitingFor c = hub.waitingFor c := by
  simp only [waitingFor, mailbox?, Hub.halt, Table.get?_mapValues, Option.map_map]
  rfl

theorem deserted_halt (h : hub.Deserted c) : hub.halt.Deserted c := by
  obtain ⟨box, hbox, hgone⟩ := h
  have hbox' : hub.mailboxes.get? c = some box := hbox
  exact ⟨box.detach, by simp [mailbox?, Hub.halt, hbox'], hgone⟩

/-- Without a loop no command is applied. -/
theorem IsDone.appliedIn (h : hub.IsDone) (course : List Happening) :
    hub.appliedIn course = [] := by
  refine glean_eq_nil_of_keeps _ h (fun _ h x => h.happen x) fun hub h x _ => ?_
  cases x with
  | act act =>
    cases act with
    | step => simp [Happening.applies, moment?, h.pending]
    | _ => rfl
  | _ => rfl

/-- Without a loop nothing is put into a mailbox. -/
theorem IsDone.enqueuedIn (h : hub.IsDone) (c : ConnectionId) (course : List Happening) :
    hub.enqueuedIn c course = [] := by
  refine glean_eq_nil_of_keeps _ h (fun _ h x => h.happen x) fun hub h x _ => ?_
  cases x with
  | act act =>
    cases act with
    | step => simp [Happening.fills, enqueuing, offering, h.pending]
    | _ => rfl
  | _ => rfl

/-- A new connection learns at once that nothing will come. -/
theorem IsDone.mailbox?_register (h : hub.IsDone) (a : Audience) :
    (hub.register a).2.mailbox? (hub.register a).1 = some ⟨[], false, .listening⟩ := by
  rw [register_eq, submit_mailbox?]
  simp [mailbox?, opened, h.running, Mailbox.fresh, Mailbox.detach]

theorem happen_capacity (x : Happening) : (hub.happen x).capacity = hub.capacity := by
  cases x with
  | act act => exact perform_capacity act
  | _ => rfl

theorem undergo_capacity (course : List Happening) :
    (hub.undergo course).capacity = hub.capacity := by
  induction course generalizing hub with
  | nil => rfl
  | cons x rest ih => exact (@ih (hub.happen x)).trans (happen_capacity x)

/-! ### Tickets -/

/-- Figures are filed, or asked for, under tickets that were given out. -/
structure Ticketed (hub : Hub) : Prop where
  answers : ∀ ticket, (hub.answers.get? ticket).isSome = true → ticket < hub.nextTicket
  pending : ∀ ticket, .stats ticket ∈ hub.pending → ticket < hub.nextTicket

theorem Ticketed.submit (h : hub.Ticketed) {command : Command}
    (hc : ∀ ticket, command = .stats ticket → ticket < hub.nextTicket) :
    (hub.submit command).Ticketed := by
  unfold Hub.submit
  split
  · refine ⟨h.answers, fun ticket ht => ?_⟩
    rcases List.mem_append.mp ht with ht | ht
    · exact h.pending ticket ht
    · exact hc ticket (List.mem_singleton.mp ht).symm
  · exact ⟨h.answers, h.pending⟩

theorem Ticketed.step (h : hub.Ticketed) : hub.step.Ticketed := by
  cases hp : hub.pending with
  | nil =>
    rw [step_nil hp]
    exact h
  | cons command rest =>
    have hpending (ticket : Nat) (ht : .stats ticket ∈ command :: rest) :
        ticket < hub.nextTicket := h.pending ticket (hp ▸ ht)
    have hnext : ((hub.popped rest).apply command).nextTicket = hub.nextTicket := by
      obtain ⟨_, _, _, _, _, _, hframe⟩ := (hub.popped rest).apply_frame command
      rw [hframe]
      rfl
    rw [step_cons hp]
    refine ⟨fun ticket ht => ?_, fun ticket ht => ?_⟩ <;> rw [hnext]
    · rw [apply_answers] at ht
      cases command with
      | stats asked =>
        simp only [Table.get?_insert] at ht
        split at ht
        · rename_i hsame
          exact hpending ticket (hsame ▸ List.mem_cons_self)
        · exact h.answers ticket ht
      | _ => exact h.answers ticket ht
    · rw [apply_pending] at ht
      exact hpending ticket (List.mem_cons_of_mem _ ht)

theorem Ticketed.perform (h : hub.Ticketed) (act : Act) : (hub.perform act).Ticketed := by
  have hsendTo (audiences : List Audience) (e : Event) : (hub.sendTo audiences e).Ticketed := by
    unfold Hub.sendTo
    split
    · exact ⟨h.answers, h.pending⟩
    · exact h.submit (by simp)
  cases act with
  | register a =>
    have hopened : hub.opened.Ticketed := ⟨h.answers, h.pending⟩
    exact hopened.submit (by simp)
  | unregister c => exact h.submit (by simp)
  | send m => exact h.submit (by simp)
  | sendTo audiences e => exact hsendTo audiences e
  | sendToStudents students e => exact hsendTo _ e
  | askStats =>
    have hasked : { hub with nextTicket := hub.nextTicket + 1 }.Ticketed :=
      ⟨fun ticket ht => (h.answers ticket ht).trans (Nat.lt_succ_self _),
        fun ticket ht => (h.pending ticket ht).trans (Nat.lt_succ_self _)⟩
    refine hasked.submit fun ticket he => ?_
    cases he
    exact Nat.lt_succ_self _
  | step => exact h.step
  | _ => exact ⟨h.answers, h.pending⟩

theorem Ticketed.undergo (h : hub.Ticketed) (course : List Happening) :
    (hub.undergo course).Ticketed := by
  induction course generalizing hub with
  | nil => exact h
  | cons x rest ih =>
    refine ih ?_
    cases x with
    | act act => exact h.perform act
    | fetched fetched =>
      refine ⟨fun ticket ht => h.answers ticket ?_, h.pending⟩
      simp only [Hub.happen, Hub.answer, Table.get?_erase] at ht
      split at ht
      · cases ht
      · exact ht
    | stopped => exact ⟨h.answers, fun _ ht => absurd ht List.not_mem_nil⟩
    | _ => exact ⟨h.answers, h.pending⟩

/-- Without a loop nothing is filed under a ticket. -/
theorem IsDone.unanswered (h : hub.IsDone) {ticket : Nat}
    (hnone : hub.answers.get? ticket = none) (course : List Happening) :
    (hub.undergo course).answers.get? ticket = none := by
  induction course generalizing hub with
  | nil => exact hnone
  | cons x rest ih =>
    refine ih (h.happen x) ?_
    cases x with
    | act act =>
      by_cases hstep : act = .step
      · subst hstep
        have hsame : hub.step = hub := step_nil h.pending
        show hub.step.answers.get? ticket = none
        rw [hsame, hnone]
      · obtain ⟨_, _, _, _, _, hframe⟩ := hub.perform_frame hstep
        show (hub.perform act).answers.get? ticket = none
        rw [hframe]
        exact hnone
    | fetched fetched =>
      simp only [Hub.happen, Hub.answer, Table.get?_erase]
      split
      · rfl
      · exact hnone
    | _ => exact hnone

/-! ### Letting go -/

/-- Whether a receiver lets go of its mailbox, or a connection is unregistered. -/
def Happening.letsGo : Happening → Bool
  | .act (.abandon _) | .act (.unregister _) => true
  | _ => false

/-- Those who let go receive nothing. -/
theorem receivedIn_of_letsGo (h : ∀ x ∈ course, x.letsGo = true) :
    hub.receivedIn c course = [] :=
  receivedIn_of_takeless fun htake => Bool.false_ne_true (h _ htake)

end Hub

namespace Session

open Hub (Happening)

variable {s lost : Session} {c : ConnectionId}

/-- All that happens to the hub is that others let go of it. -/
def LetsGo (s s' : Session) : Prop :=
  ∃ course, s'.hub = s.hub.undergo course ∧ ∀ x ∈ course, x.letsGo = true

theorem LetsGo.trans {s' s'' : Session} (h : s.LetsGo s') (h' : s'.LetsGo s'') :
    s.LetsGo s'' := by
  obtain ⟨first, hhub, hfirst⟩ := h
  obtain ⟨rest, hhub', hrest⟩ := h'
  exact ⟨first ++ rest, by rw [hhub', hhub, Hub.undergo_append],
    List.forall_mem_append.mpr ⟨hfirst, hrest⟩⟩

theorem letsGo_foldl {β : Type} {f : Session → β → Session}
    (hf : ∀ (s : Session) (x : β), s.LetsGo (f s x)) (xs : List β) (s : Session) :
    s.LetsGo (xs.foldl f s) := by
  induction xs generalizing s with
  | nil => exact ⟨[], rfl, List.forall_mem_nil _⟩
  | cons x rest ih => exact (hf s x).trans (ih (f s x))

theorem letsGo_destroyTask (s : Session) (i : Nat) : s.LetsGo (s.replaceTask i Task.destroy) := by
  cases hi : s.tasks.get? i with
  | none =>
    simp only [replaceTask, hi]
    exact ⟨[], rfl, List.forall_mem_nil _⟩
  | some t =>
    let released : List Happening :=
      if t.owns && !t.destroy.1.owns then [.act (.abandon t.connection)] else []
    have hplain := fun x hx => Command.plain_of_departs (t.destroy_departs x hx)
    refine ⟨released ++ Hub.handing t.destroy.2, ?_, List.forall_mem_append.mpr ⟨?_, ?_⟩⟩
    · rw [replaceTask_hub hi, Hub.undergo_append, Hub.undergo_handing hplain]
      simp only [released]
      split <;> rfl
    · simp only [released]
      split <;> simp [Happening.letsGo]
    · intro x hx
      simp only [Hub.handing, Hub.doings, List.mem_map] at hx
      obtain ⟨_, ⟨command, hcommand, rfl⟩, rfl⟩ := hx
      have hdeparts := t.destroy_departs command hcommand
      cases command <;> first | rfl | cases hdeparts

/-! ### How the loop is lost -/

/-- The loop is lost while handles live on: by itself, or with all tasks. -/
inductive Loses (s : Session) : Session → Prop
  | loop : s.Loses (s.onHub Hub.halt)
  | everything : s.Loses s.crash

/-- The hub is halted, and then others let go of it. -/
theorem Loses.letsGo (h : s.Loses lost) : (s.onHub Hub.halt).LetsGo lost := by
  cases h with
  | loop => exact ⟨[], rfl, List.forall_mem_nil _⟩
  | everything =>
    have hgreetings (s : Session) (g : Greeting) : s.LetsGo (s.abandon g.connection) :=
      ⟨[.act (.abandon g.connection)], rfl, List.forall_mem_singleton.mpr rfl⟩
    have hhalted : (s.onHub Hub.halt).LetsGo
        { s.onHub Hub.halt with due := [], resting := false, doomed := [], greetings := .empty } :=
      ⟨[], rfl, List.forall_mem_nil _⟩
    exact (hhalted.trans (letsGo_foldl hgreetings _ _)).trans (letsGo_foldl letsGo_destroyTask _ _)

/-- What is pending does not matter when the loop is lost. -/
theorem Loses.of_pending (h : s.Loses lost) (pending : List Command) :
    (s.onHub fun hub => { hub with pending }).Loses lost := by
  cases h with
  | loop => exact .loop
  | everything => exact .everything

theorem Loses.isDone (h : s.Loses lost) : lost.hub.IsDone := by
  obtain ⟨course, hhub, -⟩ := h.letsGo
  rw [hhub]
  exact s.hub.isDone_halt.undergo course

theorem Loses.orderly (h : s.Loses lost) (ho : s.hub.Orderly) : lost.hub.Orderly := by
  obtain ⟨course, hhub, -⟩ := h.letsGo
  rw [hhub]
  exact ho.halt.undergo course

theorem Loses.ticketed (h : s.Loses lost) (ht : s.hub.Ticketed) : lost.hub.Ticketed := by
  obtain ⟨course, hhub, -⟩ := h.letsGo
  have hhalted : s.hub.halt.Ticketed := ⟨ht.answers, fun _ hp => absurd hp List.not_mem_nil⟩
  rw [hhub]
  exact hhalted.undergo course

theorem Loses.capacity (h : s.Loses lost) : lost.hub.capacity = s.hub.capacity := by
  obtain ⟨course, hhub, -⟩ := h.letsGo
  rw [hhub]
  exact Hub.undergo_capacity course

/-- A receiver that is still there has its mailbox as it was. -/
theorem Loses.waitingFor (h : s.Loses lost) (ho : s.hub.Orderly) (hthere : ¬lost.hub.Deserted c) :
    ¬s.hub.Deserted c ∧ lost.hub.waitingFor c = s.hub.waitingFor c := by
  obtain ⟨course, hhub, hcourse⟩ := h.letsGo
  have hhub' : lost.hub = s.hub.halt.undergo course := hhub
  rw [hhub'] at hthere ⊢
  constructor
  · exact fun hgone => hthere (ho.halt.deserted_undergo (Hub.deserted_halt hgone) course)
  · have hbalance := ho.halt.waitingFor_undergo hthere
    rwa [Hub.receivedIn_of_letsGo hcourse, s.hub.isDone_halt.enqueuedIn, List.nil_append,
      List.append_nil, s.hub.waitingFor_halt] at hbalance

end Session

/-! ### Without a loop -/

/-- A pump breaks down only with its encoder. -/
def Regime.steady : Regime where
  event _ := True
  writer _ w := ∀ words, w.outcome = .panicked words → ∃ e, w.encode e = .crashed words
  stream _ _ _ := True
  greeting _ _ _ := True
  minted := 0
  known := 0
  succeeds _ hw _ hsucceeds words hwords := by
    rcases hsucceeds.panicked words hwords with hbefore | ⟨e, -, hcrashed⟩
    · exact hsucceeds.encode ▸ hw words hbefore
    · exact hsucceeds.encode ▸ ⟨e, hcrashed⟩
  lasts _ _ := trivial
  waits _ _ := trivial
  opened _ _ := trivial
  begun _ _ := trivial
  obstructed _ := trivial
  greeted _ _ hwords := by cases hwords

namespace Session

variable {config : Config} {s lost : Session} {c : ConnectionId}

theorem allows_steady (config : Config) (action : Action) : Regime.steady.Allows config action where
  event _ _ := trivial
  pair _ _ _ _ _ _ hwords := by cases hwords
  writer _ _ _ _ _ _ hwords := by cases hwords
  stream _ _ _ _ _ _ := trivial

theorem governs_lost (h : Regime.steady.Governs s) (hlost : s.Loses lost) :
    Regime.steady.Governs lost := by
  cases hlost with
  | loop => exact h.of_hub h.hub.halt (Nat.le_refl _) (Nat.le_refl _) rfl rfl rfl
  | everything => exact h.crash

/-- Whoever asks for figures is told that there is nothing. -/
theorem stats_of_done (hd : s.hub.IsDone) (ht : s.hub.Ticketed) : s.stats.1 = .zero := by
  have hnew : s.hub.answers.get? s.hub.nextTicket = none := by
    refine Option.not_isSome_iff_eq_none.mp fun hsome => ?_
    exact absurd (ht.answers _ hsome) (Nat.lt_irrefl _)
  have hasked : s.hub.askStats.2.IsDone := hd.happen (.act .askStats)
  have hunasked : s.hub.askStats.2.answers.get? s.hub.nextTicket = none :=
    hd.unanswered hnew [.act .askStats]
  let asked : Session := { s with hub := s.hub.askStats.2 }
  have hanswer : asked.settle.hub.answers.get? s.hub.nextTicket = none := by
    rw [asked.settle_hub]
    exact hasked.unanswered hunasked _
  have hstats : s.stats.1 = (asked.settle.hub.answer s.hub.nextTicket).1 := rfl
  rw [hstats, Hub.answer, hanswer]
  rfl

theorem submitEvent_of_wellFormed {kind payload : String} (h : WellFormed kind payload)
    (act : Event → Hub → Hub) : (s.submitEvent kind payload act).1 = none := by
  obtain ⟨e, he⟩ := Event.exists_build_iff.mpr h
  simp only [submitEvent, he]

theorem handle_of_whole {d : DomainEvent} (h : ¬d.Breaks) : (s.handle d).1 = none := by
  have hrefusal := (Notice.plans_eq d.kinded_policy).2
  rw [← d.plan_eq_plans] at hrefusal
  rw [handle_eq, hrefusal, Option.map_eq_none_iff, List.find?_eq_none]
  intro n hn hbroken
  exact h (DomainEvent.breaks_iff.mpr ⟨n, hn, by simpa using hbroken⟩)

/-- Nothing that is done with the handles of a session fails, and nothing is told by it. Registering
alone fails, where the mailboxes of the hub cannot be made. -/
structure Inert (s : Session) : Prop where
  figures : s.stats.1 = .zero
  registers : ∀ a words, s.register? a = .error words ↔
    words = tooManyPermits ∧ Mailbox.maxCapacity < s.hub.capacity
  closed : ∀ a c after, s.register? a = .ok (c, after) →
    after.hub.mailbox? c = some ⟨[], false, .listening⟩
  sends : ∀ scope kind payload, WellFormed kind payload → (s.send scope kind payload).1 = none
  sendsTo : ∀ audiences kind payload, WellFormed kind payload →
    (s.sendTo audiences kind payload).1 = none
  sendsToStudents : ∀ students kind payload, WellFormed kind payload →
    (s.sendToStudents students kind payload).1 = none
  handles : ∀ d : DomainEvent, ¬d.Breaks → (s.handle d).1 = none ∧ (s.publish d).1 = none
  pumps : ∀ i t w words, s.tasks.get? i = some t → t.writer? = some w →
    w.outcome = .panicked words → ∃ e, w.encode e = .crashed words

theorem inert_of_done (hd : s.hub.IsDone) (ht : s.hub.Ticketed) (h : Regime.steady.Governs s) :
    s.Inert where
  figures := stats_of_done hd ht
  registers a words := by
    unfold register?
    split
    · rename_i hfits
      simp [Nat.not_lt.mpr hfits]
    · rename_i hfits
      simp [Nat.lt_of_not_le hfits, eq_comm]
  closed a c after hok := by
    unfold register? at hok
    split at hok
    · cases hok
      exact hd.mailbox?_register a
    · cases hok
  sends _ _ _ hwell := submitEvent_of_wellFormed hwell _
  sendsTo _ _ _ hwell := submitEvent_of_wellFormed hwell _
  sendsToStudents _ _ _ hwell := submitEvent_of_wellFormed hwell _
  handles _ hwhole := ⟨handle_of_whole hwhole, handle_of_whole hwhole⟩
  pumps i t w words hi hw hwords := h.writer i t w hi hw words hwords

/-- A receiver is handed these events and learns that they were the last, whether it takes them
itself or reads them of a body. -/
structure RunsOut (s : Session) (c : ConnectionId) (events : List Event) : Prop where
  receives : (s.receive c none).1 = some (events, .closed)
  reads : ∀ i x, s.streams.get? i = some x → x.connection = c →
    (s.readStream i none).1 = some (events.map Frame.sse, true)

theorem runsOut_of_closed {box : Mailbox} (hbox : s.hub.mailbox? c = some box)
    (hclosed : box.isClosed = true) : s.RunsOut c box.waiting where
  receives := receive_of_closed hbox hclosed
  reads i x hi hc := by
    subst hc
    have hall : box.waiting.length < box.waiting.length + 2 := by omega
    obtain ⟨comments, htexts, hopen⟩ := x.read_texts box s.clock (box.waiting.length + 2)
    have hended := (x.read_ended box s.clock (box.waiting.length + 2)).mpr ⟨hall, hclosed⟩
    have hsilent : comments = 0 := by
      refine Nat.eq_zero_of_not_pos fun hpos => ?_
      rw [(hopen hpos).2] at hclosed
      cases hclosed
    rw [List.take_of_length_le (Nat.le_of_lt hall), hsilent, List.replicate_zero,
      List.append_nil] at htexts
    rw [readStream_eq hi hbox, Option.getD_none, htexts, hended]

/-! ### What is left of a session -/

/-- When the loop is lost, in whatever state, what was pending is lost with it. Whatever is done
afterwards, no command is applied and no event gets into a mailbox; nobody fails, unless the hub is
one at which nobody can register; and every figure is zero. A mailbox whose receiver is there gives
out the events that were put into it before the loss and not received since, in order, and its end;
one of a later connection gives out its end. -/
theorem lost_hub_inert {start : Session} (hstart : ofConfig? config = .ok start)
    (before : List Action) (hlost : (start.enactAll config before).Loses lost)
    (after : List Action) :
    let s := start.enactAll config before
    let d := lost.enactAll config after
    let course := start.history config before
    let later := lost.history config after
    (∀ pending, (s.onHub fun hub => { hub with pending }).Loses lost) ∧
      lost.hub.appliedIn later = [] ∧
      (∀ c, lost.hub.enqueuedIn c later = []) ∧
      d.Inert ∧ d.hub.capacity = config.queueCapacity ∧
      ∀ c box, d.hub.mailbox? c = some box → box.intake ≠ .gone →
        start.hub.receivedIn c course ++ lost.hub.receivedIn c later ++ box.waiting =
            start.hub.enqueuedIn c course ∧
          (lost.hub.mailbox? c = none → box.waiting = []) ∧ d.RunsOut c box.waiting := by
  intro s d course later
  have hfresh : start.hub.Ticketed ∧ start.hub.capacity = config.queueCapacity ∧
      start.hub.mailboxes = .empty := by
    unfold ofConfig? start? at hstart
    split at hstart <;> cases hstart
    exact ⟨⟨fun _ h => (by cases h), fun _ h => absurd h List.not_mem_nil⟩, rfl, rfl⟩
  obtain ⟨hticketed, hcapacity, hempty⟩ := hfresh
  have hstartOrderly : start.hub.Orderly := (lasting_ofConfig hstart).orderly
  have hs : s.hub = start.hub.undergo course := enactAll_hub config start before
  have hd : d.hub = lost.hub.undergo later := enactAll_hub config lost after
  have hdone : lost.hub.IsDone := hlost.isDone
  have horderly : s.hub.Orderly := hs ▸ hstartOrderly.undergo course
  have hlostOrderly : lost.hub.Orderly := hlost.orderly horderly
  have hended : d.hub.IsDone := hd ▸ hdone.undergo later
  refine ⟨hlost.of_pending, hdone.appliedIn later, fun c => hdone.enqueuedIn c later,
    inert_of_done hended ?_ ?_, ?_, fun c box hbox hthere => ?_⟩
  · rw [hd]
    exact (hlost.ticketed (hs ▸ hticketed.undergo course)).undergo later
  · have hgoverned : Regime.steady.Governs s :=
      (Regime.governs_ofConfig hstart rfl rfl).enactAll fun action _ => allows_steady config action
    exact (governs_lost hgoverned hlost).enactAll fun action _ => allows_steady config action
  · rw [hd, Hub.undergo_capacity, hlost.capacity]
    exact (congrArg Hub.capacity hs).trans ((Hub.undergo_capacity course).trans hcapacity)
  · have hnotGone : ¬d.hub.Deserted c := by
      rintro ⟨box', hbox', hgone⟩
      rw [hbox] at hbox'
      cases hbox'
      exact hthere hgone
    have hnotGoneLost : ¬lost.hub.Deserted c := fun hgone =>
      hnotGone (hd ▸ hlostOrderly.deserted_undergo hgone later)
    obtain ⟨hnotGoneBefore, hsame⟩ := hlost.waitingFor horderly hnotGoneLost
    have hearly := hstartOrderly.waitingFor_undergo (hs ▸ hnotGoneBefore)
    have hlate := hlostOrderly.waitingFor_undergo (hd ▸ hnotGone)
    have hnone : start.hub.mailbox? c = none := by simp [Hub.mailbox?, hempty]
    rw [← hs, Hub.waitingFor_of_absent hnone, List.nil_append] at hearly
    rw [← hd, Hub.waitingFor_of_mailbox hbox, hdone.enqueuedIn, List.append_nil] at hlate
    refine ⟨?_, fun hnew => ?_, runsOut_of_closed hbox ?_⟩
    · rw [List.append_assoc, hlate, hsame]
      exact hearly
    · rw [Hub.waitingFor_of_absent hnew] at hlate
      exact (List.append_eq_nil_iff.mp hlate).2
    · have hdetached := hended.detached (hd ▸ hlostOrderly.undergo later) hbox
      simp [Mailbox.isClosed, hdetached]

/-- A student has read nothing yet and another has only just been registered when everything is lost;
what is sent then is for nobody. -/
theorem lost_hub_inert_students :
    let first : Event := ⟨"notify", "first", by decide, by decide, by decide⟩
    let second : Event := ⟨"notify", "second", by decide, by decide, by decide⟩
    let before : List Action := [.register (.student 5), .send .broadcast "notify" "first",
      .web .settle, .send .broadcast "notify" "second", .register (.student 6)]
    let after : List Action :=
      [.send .broadcast "notify" "third", .unregister ⟨0⟩, .register .unfiltered, .web .settle]
    ∃ start, ofConfig? Config.standard = .ok start ∧
      let s := start.enactAll Config.standard before
      s.hub.pending = [.send ⟨.broadcast, second⟩, .register ⟨1⟩ (.student 6)] ∧
        let d := s.crash.enactAll Config.standard after
        d.stats.1 = .zero ∧ (d.send .broadcast "notify" "fourth").1 = none ∧
          (d.receive ⟨0⟩ none).1 = some ([first], .closed) ∧
          (d.receive ⟨1⟩ none).1 = some ([], .closed) ∧
          (d.receive ⟨2⟩ none).1 = some ([], .closed) := by
  intro first second before after
  let start : Session := (Session.start 256 (by decide)).onHub fun hub =>
    { hub with journal := settings Config.standard :: hub.journal }
  have hstart : ofConfig? Config.standard = .ok start := rfl
  obtain ⟨-, -, -, hinert, -, hboxes⟩ := lost_hub_inert hstart before .everything after
  have hfirst : ((start.enactAll Config.standard before).crash.enactAll Config.standard
      after).hub.mailbox? ⟨0⟩ = some ⟨[first], false, .listening⟩ := by decide +kernel
  have hempty : ∀ c ∈ [⟨1⟩, ⟨2⟩], ((start.enactAll Config.standard before).crash.enactAll
      Config.standard after).hub.mailbox? c = some ⟨[], false, .listening⟩ := by decide +kernel
  have hrunsOut (c : ConnectionId) (hc : c ∈ [⟨1⟩, ⟨2⟩]) :=
    (hboxes c _ (hempty c hc) (by decide)).2.2
  exact ⟨start, hstart, by decide +kernel, hinert.figures,
    hinert.sends .broadcast "notify" "fourth" ⟨by decide, by decide, by decide⟩,
    (hboxes ⟨0⟩ _ hfirst (by decide)).2.2.receives, (hrunsOut ⟨1⟩ (by decide)).receives,
    (hrunsOut ⟨2⟩ (by decide)).receives⟩

/-- A hub is started even if its mailboxes cannot be made. Registering breaks down there, and still
does when everything is lost. -/
theorem register_breaks_down :
    ∃ s, start? 2305843009213693952 = .ok s ∧ s.Loses s.crash ∧
      s.crash.register? (.student 5) = .error
        "a semaphore may not have more than MAX_PERMITS permits (2305843009213693951)" := by
  let s : Session := Session.start 2305843009213693952 (by decide)
  have hcapacity : ¬s.crash.hub.capacity ≤ Mailbox.maxCapacity := by
    rw [(Loses.everything : s.Loses s.crash).capacity]
    decide
  have hwords : tooManyPermits =
      "a semaphore may not have more than MAX_PERMITS permits (2305843009213693951)" := by
    decide +kernel
  refine ⟨s, rfl, .everything, ?_⟩
  rw [register?, if_neg hcapacity, hwords]

end Session
end LiveUpdate
