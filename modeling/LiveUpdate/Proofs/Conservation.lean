import LiveUpdate.Proofs.AlikeHubs
import LiveUpdate.Proofs.Drafts

/-! What the counters count. Every event that was ever put into a mailbox has been counted as
delivered, and every one that found a mailbox full as dropped, whoever has registered, taken, left
or gone in the meantime. Nothing else moves the counters. -/
namespace LiveUpdate

/-- An offer is met by the receiver first and by the room in the mailbox then. -/
theorem Mailbox.offer_delivered_iff {capacity : Nat} {e : Event} {box : Mailbox} :
    (box.offer capacity e).1 = .delivered ↔
      box.intake = .listening ∧ box.waiting.length < capacity := by
  unfold offer
  grind

theorem Mailbox.offer_dropped_iff {capacity : Nat} {e : Event} {box : Mailbox} :
    (box.offer capacity e).1 = .dropped ↔
      box.intake = .listening ∧ capacity ≤ box.waiting.length := by
  unfold offer
  grind

namespace Hub

variable {hub : Hub} {c : ConnectionId} {m : Message} {rest : List Command}
  {ids : List ConnectionId}

/-! ### The outcome of an offer -/

/-- Whether a message is for a connection of the table. -/
def isMeant (hub : Hub) (m : Message) (c : ConnectionId) : Bool :=
  (hub.registry.audiences.get? c).any m.scope.covers

/-- Whether the receiver of a connection still takes events. -/
def isOpen (hub : Hub) (c : ConnectionId) : Bool :=
  (hub.mailbox? c).any fun box => box.intake = .listening

/-- Whether the mailbox of a connection has no room. -/
def isFull (hub : Hub) (c : ConnectionId) : Bool :=
  (hub.mailbox? c).any fun box => hub.capacity ≤ box.waiting.length

/-- How many of some connections would be delivered an event, and how many would miss it. -/
theorem countOutcome_eq (hub : Hub) (e : Event) (cs : List ConnectionId) :
    hub.countOutcome e .delivered cs = cs.countP (fun c => hub.isOpen c && !hub.isFull c) ∧
      hub.countOutcome e .dropped cs = cs.countP fun c => hub.isOpen c && hub.isFull c := by
  constructor
  · refine List.countP_congr fun c _ => ?_
    cases hbox : hub.mailbox? c with
    | none => simp [isOpen, hbox]
    | some box => simp [isOpen, isFull, hbox, Mailbox.offer_delivered_iff]
  · refine List.countP_congr fun c _ => ?_
    cases hbox : hub.mailbox? c with
    | none => simp [isOpen, hbox]
    | some box => simp [isOpen, isFull, hbox, Mailbox.offer_dropped_iff]

/-- A step that applies a message counts those for whom it is and whose receivers are open, by
whether they have room. -/
theorem Orderly.step_send (h : hub.Orderly) (hp : hub.pending = .send m :: rest) :
    hub.step.delivered = hub.delivered +
        (hub.registry.recipients m.scope).countP (fun c => hub.isOpen c && !hub.isFull c) ∧
      hub.step.dropped = hub.dropped +
        (hub.registry.recipients m.scope).countP fun c => hub.isOpen c && hub.isFull c := by
  have hcounts := (h.housed.popped rest).send_counts m
  rw [((hub.popped rest).countOutcome_eq m.event _).1,
    ((hub.popped rest).countOutcome_eq m.event _).2] at hcounts
  rw [step_cons hp]
  exact hcounts

/-- Only messages move the counters. -/
theorem apply_counters {command : Command} (hc : ∀ m, command ≠ .send m) :
    (hub.apply command).delivered = hub.delivered ∧ (hub.apply command).dropped = hub.dropped := by
  cases command with
  | send m => exact absurd rfl (hc m)
  | unregister c =>
    simp only [apply]
    split <;> exact ⟨rfl, rfl⟩
  | _ => exact ⟨rfl, rfl⟩

/-- The loop applies a command in a step of its own, which takes it off those that are pending. -/
theorem pending_of_applies {x : Happening} {command : Command} (h : command ∈ x.applies hub) :
    x = .act .step ∧ ∃ rest, hub.pending = command :: rest := by
  cases x with
  | act act =>
    cases act with
    | step =>
      cases hp : hub.pending with
      | nil => simp [Happening.applies, moment?, hp] at h
      | cons first rest =>
        have hfirst : command = first := by
          simpa [Happening.applies, moment?, hp, Moment.command?] using h
        exact ⟨rfl, rest, by rw [hfirst]⟩
    | _ => simp [Happening.applies, moment?, Moment.command?] at h
  | _ => cases h

theorem happen_counters {x : Happening} (hx : x ≠ .stopped)
    (hsend : ∀ m, .send m ∉ x.applies hub) :
    (hub.happen x).delivered = hub.delivered ∧ (hub.happen x).dropped = hub.dropped := by
  by_cases hstep : x = .act .step
  · subst hstep
    show hub.step.delivered = _ ∧ hub.step.dropped = _
    cases hp : hub.pending with
    | nil =>
      rw [step_nil hp]
      exact ⟨rfl, rfl⟩
    | cons command rest =>
      have hother (m : Message) : command ≠ .send m := by
        rintro rfl
        exact hsend m (by simp [Happening.applies, moment?, hp, Moment.command?])
      rw [step_cons hp]
      exact @apply_counters (hub.popped rest) command hother
  · cases x with
    | act act =>
      obtain ⟨_, _, _, _, _, hframe⟩ := hub.perform_frame fun he => hstep (congrArg _ he)
      rw [happen, hframe]
      exact ⟨rfl, rfl⟩
    | stopped => exact absurd rfl hx
    | _ => exact ⟨rfl, rfl⟩

/-! ### What each connection gets and misses -/

/-- What a happening would have put into the mailbox of a connection, had there been room. -/
def Happening.loses (hub : Hub) (c : ConnectionId) : Happening → List Event
  | .act .step => if hub.isOpen c && hub.isFull c then hub.offering c else []
  | _ => []

/-- What a connection misses in a course because its mailbox is full. -/
def lostIn (hub : Hub) (c : ConnectionId) (course : List Happening) : List Event :=
  glean (fun hub x => x.loses hub c) hub course

theorem fills_step (hub : Hub) (c : ConnectionId) : Happening.fills hub c (.act .step) =
    if hub.isOpen c && !hub.isFull c then hub.offering c else [] := by
  simp only [Happening.fills, enqueuing]
  cases hbox : hub.mailbox? c with
  | none => simp [isOpen, hbox]
  | some box =>
    simp only [isOpen, isFull, hbox, Option.any_some, Mailbox.offer_delivered_iff]
    split <;> rename_i hmeets
    · exact List.filter_eq_self.mpr fun e _ => by simpa using hmeets
    · exact List.filter_eq_nil_iff.mpr fun e _ => by simpa using hmeets

/-- Without a message nobody gets or misses anything. -/
theorem yields_nothing {x : Happening} (hsend : ∀ m, .send m ∉ x.applies hub) (c : ConnectionId) :
    x.fills hub c = [] ∧ x.loses hub c = [] := by
  by_cases hstep : x = .act .step
  · subst hstep
    have hnone : hub.offering c = [] := by
      rw [offering]
      split
      · rfl
      · rename_i command rest hp
        cases command with
        | send m =>
          have hsent : .send m ∈ Happening.applies hub (.act .step) := by
            simp [Happening.applies, moment?, hp, Moment.command?]
          exact absurd hsent (hsend m)
        | _ => rfl
    simp [fills_step, Happening.loses, hnone]
  · cases x with
    | act act =>
      cases act with
      | step => exact absurd rfl hstep
      | _ => exact ⟨rfl, rfl⟩
    | _ => exact ⟨rfl, rfl⟩

/-- Whoever is meant is offered the event once, which makes a sum over all connections of those who
are meant. -/
theorem Orderly.sum_offering (h : hub.Orderly) (hp : hub.pending = .send m :: rest)
    (hd : ids.Nodup) (hids : ∀ c, (hub.registry.audiences.get? c).isSome → c ∈ ids)
    (p : ConnectionId → Bool) :
    (ids.map fun c => (if p c then hub.offering c else []).length).sum =
      (hub.registry.recipients m.scope).countP p := by
  have hone (c : ConnectionId) : (if p c then hub.offering c else []).length =
      if hub.isMeant m c && p c then 1 else 0 := by
    simp only [offering, hp, Command.offers, isMeant]
    grind
  have hperm : (hub.registry.recipients m.scope).Perm (ids.filter (hub.isMeant m)) := by
    refine (List.perm_ext_iff_of_nodup (h.indexed.nodup_recipients _) (hd.filter _)).mpr fun c => ?_
    rw [h.indexed.mem_recipients, List.mem_filter, isMeant, Option.any_eq_true]
    refine ⟨fun hmeant => ⟨?_, hmeant⟩, And.right⟩
    obtain ⟨a, ha, -⟩ := hmeant
    exact hids c (by rw [ha]; rfl)
  simp only [hone]
  rw [List.sum_map_ite, hperm.countP_eq, List.countP_filter, List.countP_eq_length_filter]
  simp [and_comm]

/-- What a happening adds to the counters is what it puts into mailboxes, and what they have no
room for. -/
theorem Orderly.happen_sums (h : hub.Orderly) (hd : ids.Nodup)
    (hids : ∀ c, (hub.registry.audiences.get? c).isSome → c ∈ ids) {x : Happening}
    (hx : x ≠ .stopped) :
    (hub.happen x).delivered = hub.delivered + (ids.map fun c => (x.fills hub c).length).sum ∧
      (hub.happen x).dropped = hub.dropped + (ids.map fun c => (x.loses hub c).length).sum := by
  by_cases hsend : ∃ m, .send m ∈ x.applies hub
  · obtain ⟨m, hm⟩ := hsend
    obtain ⟨rfl, rest, hp⟩ := pending_of_applies hm
    simp only [fills_step, Happening.loses]
    rw [h.sum_offering hp hd hids, h.sum_offering hp hd hids]
    exact h.step_send hp
  · have hsend : ∀ m, .send m ∉ x.applies hub := fun m hm => hsend ⟨m, hm⟩
    simp [happen_counters hx hsend, yields_nothing hsend]

/-! ### Who was ever registered -/

/-- The connections that are entered in a course, in order. -/
def enteredIn (hub : Hub) (course : List Happening) : List ConnectionId :=
  (hub.appliedIn course).filterMap Command.entrant?

/-- Nobody comes to be registered who is not entered. -/
theorem registered_happen {x : Happening}
    (hc : ((hub.happen x).registry.audiences.get? c).isSome = true) :
    (hub.registry.audiences.get? c).isSome = true ∨
      c ∈ (x.applies hub).filterMap Command.entrant? := by
  by_cases hstep : x = .act .step
  · subst hstep
    have hc' : (hub.step.registry.audiences.get? c).isSome = true := hc
    cases hp : hub.pending with
    | nil =>
      rw [step_nil hp] at hc'
      exact Or.inl hc'
    | cons command rest =>
      rw [step_audiences hp] at hc'
      simp only [Happening.applies, moment?, hp]
      cases command <;> grind [Command.restate, Command.entrant?, Moment.command?]
  · cases x with
    | act act => exact Or.inl (perform_registry (fun he => hstep (congrArg _ he)) ▸ hc)
    | stopped => cases hc
    | _ => exact Or.inl hc

/-- Over a course the counters grow by the sums over all who were there or are entered. -/
theorem Orderly.undergo_sums (h : hub.Orderly) (hd : ids.Nodup)
    (hids : ∀ c, (hub.registry.audiences.get? c).isSome → c ∈ ids) {course : List Happening}
    (hentered : ∀ c ∈ hub.enteredIn course, c ∈ ids) (hcourse : .stopped ∉ course) :
    (hub.undergo course).delivered =
        hub.delivered + (ids.map fun c => (hub.enqueuedIn c course).length).sum ∧
      (hub.undergo course).dropped =
        hub.dropped + (ids.map fun c => (hub.lostIn c course).length).sum := by
  induction course generalizing hub with
  | nil => simp [enqueuedIn, lostIn]
  | cons x rest ih =>
    obtain ⟨hx, hrest⟩ := List.ne_and_not_mem_of_not_mem_cons hcourse
    simp only [enteredIn, appliedIn, glean_cons, List.filterMap_append, List.mem_append] at hentered
    have hids' (c : ConnectionId) (hc : ((hub.happen x).registry.audiences.get? c).isSome) :
        c ∈ ids := by
      rcases registered_happen hc with hc | hc
      · exact hids c hc
      · exact hentered c (Or.inl hc)
    obtain ⟨hdelivered, hdropped⟩ := h.happen_sums hd hids fun he => hx he.symm
    obtain ⟨ihdelivered, ihdropped⟩ :=
      ih (h.happen x) hids' (fun c hc => hentered c (Or.inr hc)) hrest
    simp only [undergo_cons, enqueuedIn, lostIn, glean_cons, List.length_append,
      List.sum_map_add] at ihdelivered ihdropped ⊢
    rw [ihdelivered, ihdropped, hdelivered, hdropped, Nat.add_assoc, Nat.add_assoc]
    exact ⟨rfl, rfl⟩

/-- Whoever is registered was there or has been entered. -/
theorem registered_undergo {course : List Happening}
    (hc : ((hub.undergo course).registry.audiences.get? c).isSome = true) :
    (hub.registry.audiences.get? c).isSome = true ∨ c ∈ hub.enteredIn course := by
  induction course generalizing hub with
  | nil => exact Or.inl hc
  | cons x rest ih =>
    simp only [enteredIn, appliedIn, glean_cons, List.filterMap_append, List.mem_append]
    rcases ih hc with hthere | hentered
    · exact (registered_happen hthere).imp_right Or.inl
    · exact Or.inr (Or.inr hentered)

/-- A happening submits one registration at most, under a new number. -/
theorem entrants_submits (hub : Hub) (x : Happening) :
    (x.submits hub).filterMap Command.entrant? = [] ∨
      (x.submits hub).filterMap Command.entrant? = [⟨hub.nextConnection⟩] ∧
        (hub.happen x).nextConnection = hub.nextConnection + 1 := by
  cases x with
  | act act =>
    cases act with
    | register a => exact Or.inr ⟨rfl, nextConnection_register hub a⟩
    | sendTo audiences e =>
      simp only [Happening.submits, submitted]
      split <;> exact Or.inl rfl
    | sendToStudents students e =>
      simp only [Happening.submits, submitted]
      split <;> exact Or.inl rfl
    | _ => exact Or.inl rfl
  | _ => exact Or.inl rfl

/-- No number is submitted twice. -/
theorem entrants_submittedIn (hub : Hub) (course : List Happening) :
    (∀ c ∈ (hub.submittedIn course).filterMap Command.entrant?, hub.nextConnection ≤ c.number) ∧
      ((hub.submittedIn course).filterMap Command.entrant?).Nodup := by
  induction course generalizing hub with
  | nil => simp [submittedIn]
  | cons x rest ih =>
    obtain ⟨hlater, hnodup⟩ := ih (hub.happen x)
    simp only [submittedIn, glean_cons, List.filterMap_append] at hlater hnodup ⊢
    rcases hub.entrants_submits x with hnone | ⟨hone, hnext⟩
    · rw [hnone, List.nil_append]
      exact ⟨fun c hc => (nextConnection_happen x).trans (hlater c hc), hnodup⟩
    · rw [hone, List.singleton_append, List.nodup_cons]
      rw [hnext] at hlater
      refine ⟨fun c hc => ?_, fun hc => ?_, hnodup⟩
      · rcases List.mem_cons.mp hc with rfl | hc
        · exact Nat.le_refl _
        · exact Nat.le_of_succ_le (hlater c hc)
      · exact Nat.lt_irrefl _ (hlater _ hc)

theorem nodup_enteredIn (hr : hub.running = true) (hp : hub.pending = [])
    {course : List Happening} (hcourse : .stopped ∉ course) : (hub.enteredIn course).Nodup := by
  have hall := undergo_pending (proper_of_running hr hcourse)
  have hnodup := (hub.entrants_submittedIn course).2
  rw [hp, List.nil_append] at hall
  rw [hall, List.filterMap_append] at hnodup
  exact hnodup.sublist (List.sublist_append_left _ _)

/-- A loop that is still there has not ended. -/
theorem not_stopped_of_running {course : List Happening}
    (hr : (hub.undergo course).running = true) : .stopped ∉ course := by
  intro hstopped
  obtain ⟨first, rest, rfl⟩ := List.append_of_mem hstopped
  rw [undergo_append, undergo_cons] at hr
  exact Bool.noConfusion (((isDone_stop _).undergo rest).running.symm.trans hr)

/-! ### Conservation -/

/-- A step puts into every mailbox just what is counted as put there. -/
theorem Orderly.waitingFor_step (h : hub.Orderly) (c : ConnectionId) :
    hub.step.waitingFor c = hub.waitingFor c ++ Happening.fills hub c (.act .step) := by
  cases hbox : hub.mailbox? c with
  | none =>
    have hempty : hub.step.waitingFor c = [] := h.waitingFor_perform_of_absent hbox .step
    have hnothing : Happening.fills hub c (.act .step) = [] := enqueuing_of_absent hbox .step
    rw [hempty, hnothing, waitingFor_of_absent hbox]
    rfl
  | some box =>
    obtain ⟨box', hbox', -, hwaiting⟩ := mailbox?_step_listening h hbox
    rw [waitingFor_of_mailbox hbox', waitingFor_of_mailbox hbox, hwaiting]
    rfl

/-- A message goes once into every mailbox that it is for, that is open and that has room. -/
theorem Orderly.waitingFor_send (h : hub.Orderly) (hp : hub.pending = .send m :: rest)
    (c : ConnectionId) : hub.step.waitingFor c = hub.waitingFor c ++
      if hub.isMeant m c && hub.isOpen c && !hub.isFull c then [m.event] else [] := by
  rw [h.waitingFor_step, fills_step, offering, hp]
  simp only [Command.offers, isMeant]
  grind

/-- The recipients that have some property are those for whom the message is that have it. -/
theorem Orderly.countP_recipients (h : hub.Orderly) (m : Message) (p : ConnectionId → Bool) :
    (hub.registry.recipients m.scope).countP p =
      {c | hub.isMeant m c = true ∧ p c = true}.ncard := by
  rw [List.countP_eq_length_filter]
  refine (ncard_eq_length ((h.indexed.nodup_recipients m.scope).filter p) fun c => ?_).symm
  rw [List.mem_filter, h.indexed.mem_recipients, isMeant, Option.any_eq_true]

/-- A message is counted once for each connection that it is for and whose receiver is open. -/
theorem Orderly.step_send_ncard (h : hub.Orderly) (hp : hub.pending = .send m :: rest) :
    hub.step.delivered = hub.delivered +
        {c | hub.isMeant m c ∧ hub.isOpen c ∧ ¬ hub.isFull c}.ncard ∧
      hub.step.dropped = hub.dropped +
        {c | hub.isMeant m c ∧ hub.isOpen c ∧ hub.isFull c}.ncard ∧
      hub.step.delivered + hub.step.dropped = hub.delivered + hub.dropped +
        {c | hub.isMeant m c ∧ hub.isOpen c}.ncard := by
  obtain ⟨hdelivers, hdrops⟩ := h.step_send hp
  have hsplit : (hub.registry.recipients m.scope).countP hub.isOpen =
      (hub.registry.recipients m.scope).countP (fun c => hub.isOpen c && !hub.isFull c) +
        (hub.registry.recipients m.scope).countP fun c => hub.isOpen c && hub.isFull c := by
    rw [List.countP_eq_countP_filter_add _ hub.isOpen hub.isFull, List.countP_filter,
      List.countP_filter, Nat.add_comm]
  have htotal : hub.step.delivered + hub.step.dropped = hub.delivered + hub.dropped +
      (hub.registry.recipients m.scope).countP hub.isOpen := by omega
  simp only [h.countP_recipients, Bool.and_eq_true, Bool.not_eq_true',
    ← Bool.not_eq_true] at hdelivers hdrops htotal
  exact ⟨hdelivers, hdrops, htotal⟩

/-- At any time, `delivered` counts what was ever put into the mailboxes of all who were ever
registered, and `dropped` what they were offered when their mailboxes were full. A message adds to
the two together the number of connections that it is for and whose receivers are open; those that
are closed are not counted, be their mailboxes full or not. The counters never fall, and nothing but
a message moves them. -/
theorem deliveries_conserved (capacity : Nat) (hpos : 0 < capacity) (course : List Happening)
    (hlive : ((start capacity hpos).undergo course).running = true) :
    let fresh := start capacity hpos
    let hub := fresh.undergo course
    let entered := fresh.enteredIn course
    (entered.Nodup ∧ ∀ c, (hub.registry.audiences.get? c).isSome → c ∈ entered) ∧
    hub.delivered = (entered.map fun c => (fresh.enqueuedIn c course).length).sum ∧
    hub.dropped = (entered.map fun c => (fresh.lostIn c course).length).sum ∧
    (∀ c, hub.step.waitingFor c = hub.waitingFor c ++ Happening.fills hub c (.act .step)) ∧
    (∀ c, ¬ hub.Deserted c →
      fresh.receivedIn c course ++ hub.waitingFor c = fresh.enqueuedIn c course) ∧
    (∀ m rest, hub.pending = .send m :: rest →
      hub.step.delivered = hub.delivered +
        {c | hub.isMeant m c ∧ hub.isOpen c ∧ ¬ hub.isFull c}.ncard ∧
      hub.step.dropped = hub.dropped +
        {c | hub.isMeant m c ∧ hub.isOpen c ∧ hub.isFull c}.ncard ∧
      hub.step.delivered + hub.step.dropped = hub.delivered + hub.dropped +
        {c | hub.isMeant m c ∧ hub.isOpen c}.ncard) ∧
    ∀ x, x ≠ .stopped →
      hub.delivered ≤ (hub.happen x).delivered ∧ hub.dropped ≤ (hub.happen x).dropped ∧
      ((∀ m, .send m ∉ x.applies hub) →
        (hub.happen x).delivered = hub.delivered ∧ (hub.happen x).dropped = hub.dropped) := by
  intro fresh hub entered
  have hfresh : fresh.Orderly := orderly_start capacity hpos
  have horderly : hub.Orderly := hfresh.undergo course
  have hcourse : .stopped ∉ course := not_stopped_of_running hlive
  have hnodup : entered.Nodup := nodup_enteredIn rfl rfl hcourse
  have hentered (c : ConnectionId) (hc : (hub.registry.audiences.get? c).isSome) : c ∈ entered :=
    (registered_undergo hc).resolve_left nofun
  obtain ⟨hdelivered, hdropped⟩ :=
    hfresh.undergo_sums hnodup nofun (fun c hc => hc) hcourse
  refine ⟨⟨hnodup, hentered⟩, hdelivered.trans (Nat.zero_add _), hdropped.trans (Nat.zero_add _),
    horderly.waitingFor_step, fun c hthere => hfresh.waitingFor_undergo hthere,
    fun m rest hp => horderly.step_send_ncard hp, fun x hx => ?_⟩
  obtain ⟨hdelivers, hdrops⟩ := horderly.happen_sums hnodup hentered hx
  exact ⟨hdelivers.symm ▸ Nat.le_add_right _ _, hdrops.symm ▸ Nat.le_add_right _ _,
    happen_counters hx⟩

/-- The first of three broadcasts reaches both connections and the second one of them. The third
finds one mailbox full, and another that is full as well but closed, which does not count. -/
theorem deliveries_conserved_closed : 0 < 1 ∧
    let hello : Happening := .act (.send ⟨.broadcast, .hello⟩)
    let course : List Happening := [.act (.register (.student 5)), .act (.register .unfiltered),
      hello, hello, hello, .act .step, .act .step, .act .step, .act (.take ⟨0⟩), .act .step,
      .act (.refuseMore ⟨1⟩)]
    let fresh := start 1 (by decide)
    let hub := fresh.undergo course
    hub.running = true ∧
      [hub.delivered, hub.dropped] = [3, 1] ∧
      hub.delivered =
        ((fresh.enteredIn course).map fun c => (fresh.enqueuedIn c course).length).sum ∧
      hub.step.delivered + hub.step.dropped = hub.delivered + hub.dropped +
        {c | hub.isMeant ⟨.broadcast, .hello⟩ c ∧ hub.isOpen c}.ncard ∧
      [hub.step.delivered, hub.step.dropped] = [3, 2] ∧ hub.isFull ⟨1⟩ = true := by
  refine ⟨by decide, ?_⟩
  intro hello course fresh hub
  have hlive : hub.running = true := by decide +kernel
  obtain ⟨-, hdelivered, -, -, -, hsend, -⟩ := deliveries_conserved 1 (by decide) course hlive
  have hpending : hub.pending = [.send ⟨.broadcast, .hello⟩] := by decide +kernel
  exact ⟨hlive, by decide +kernel, hdelivered, (hsend _ [] hpending).2.2, by decide +kernel,
    by decide +kernel⟩

end Hub
end LiveUpdate
