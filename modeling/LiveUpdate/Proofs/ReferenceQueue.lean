import LiveUpdate.Proofs.HubRuns

/-! Each subscription, seen alone, is one bounded queue. What reaches the queue is read off the
history of the run: the messages that cover its audience between its registration and its end, and
what its receiver does. -/
namespace LiveUpdate

/-- A bounded queue with what has been taken from it. -/
structure Fifo where
  received : List Event
  waiting : List Event
  /-- Whether the sending end is gone. -/
  ended : Bool
  intake : Intake
  deriving DecidableEq, Repr

namespace Fifo

inductive Input
  | offer (e : Event)
  | close
  | take
  | refuseMore
  | abandon
  deriving DecidableEq, Repr

def Input.offered? : Input → Option Event
  | offer e => some e
  | _ => none

def fresh : Fifo := ⟨[], [], false, .listening⟩

/-- An event is lost when the receiver takes no more or the queue is full; nothing else is. -/
def accept (capacity : Nat) (q : Fifo) : Input → Fifo
  | .offer e =>
    if q.intake = .listening ∧ q.waiting.length < capacity then
      { q with waiting := q.waiting ++ [e] }
    else q
  | .close => { q with ended := true }
  | .take => { q with received := q.received ++ q.waiting.take 1, waiting := q.waiting.drop 1 }
  | .refuseMore => if q.intake = .listening then { q with intake := .refusing } else q
  | .abandon => { q with waiting := [], intake := .gone }

def follow (capacity : Nat) (q : Fifo) (inputs : List Input) : Fifo :=
  inputs.foldl (accept capacity) q

def isClosed (q : Fifo) : Bool := q.ended || q.intake ≠ .listening

theorem accept_waiting_length {capacity : Nat} {q : Fifo} (h : q.waiting.length ≤ capacity)
    (input : Input) : (q.accept capacity input).waiting.length ≤ capacity := by
  cases input with
  | offer e =>
    simp only [accept]
    split
    · rename_i hroom
      simp only [List.length_append, List.length_singleton]
      omega
    · exact h
  | take =>
    simp only [accept, List.length_drop]
    omega
  | refuseMore =>
    simp only [accept]
    split <;> exact h
  | close => exact h
  | abandon => simp [accept]

theorem follow_waiting_length {capacity : Nat} {q : Fifo} (h : q.waiting.length ≤ capacity)
    (inputs : List Input) : (q.follow capacity inputs).waiting.length ≤ capacity := by
  induction inputs generalizing q with
  | nil => exact h
  | cons input rest ih => exact ih (accept_waiting_length h input)

theorem accept_kept_sublist (capacity : Nat) (q : Fifo) (input : Input) :
    ((q.accept capacity input).received ++ (q.accept capacity input).waiting).Sublist
      (q.received ++ q.waiting ++ input.offered?.toList) := by
  cases input with
  | offer e =>
    simp only [accept, Input.offered?, Option.toList_some]
    split
    · rw [List.append_assoc]
    · exact List.sublist_append_left _ _
  | take =>
    have hsplit := List.take_append_drop 1 q.waiting
    simp only [accept, Input.offered?, Option.toList_none, List.append_nil, List.append_assoc,
      hsplit]
    exact List.Sublist.refl _
  | refuseMore =>
    simp only [accept, Input.offered?]
    split <;> simp
  | close => simp [accept, Input.offered?]
  | abandon => simp [accept, Input.offered?]

/-- What is received or waits was offered, in this order and each time it is there. -/
theorem follow_kept_sublist (capacity : Nat) (q : Fifo) (inputs : List Input) :
    ((q.follow capacity inputs).received ++ (q.follow capacity inputs).waiting).Sublist
      (q.received ++ q.waiting ++ inputs.filterMap Input.offered?) := by
  induction inputs generalizing q with
  | nil => simp [follow]
  | cons input rest ih =>
    have hstep := accept_kept_sublist capacity q input
    have hrest := ih (q.accept capacity input)
    refine hrest.trans ?_
    have hcons : (input :: rest).filterMap Input.offered? =
        input.offered?.toList ++ rest.filterMap Input.offered? := by
      rw [List.filterMap_cons]
      cases input.offered? <;> rfl
    rw [hcons, ← List.append_assoc]
    exact hstep.append_right _

end Fifo

/-- Whether the loop has entered a subscription in its table, and taken it out again. -/
inductive Gate
  | awaited
  | entered
  | left
  deriving DecidableEq, Repr

namespace Gate

open Hub

def pass (c : ConnectionId) : Gate → Moment → Gate
  | awaited, .applied (.register c' _) => if c' = c then entered else awaited
  | entered, .applied (.unregister c') => if c' = c then left else entered
  | gate, _ => gate

/-- What a moment is for the queue of a connection with this audience. -/
def input? (c : ConnectionId) (k : Audience) : Gate → Moment → Option Fifo.Input
  | entered, .applied (.send m) => if m.scope.covers k then some (.offer m.event) else none
  | entered, .applied (.unregister c') => if c' = c then some .close else none
  | _, .taken c' => if c' = c then some .take else none
  | _, .refused c' => if c' = c then some .refuseMore else none
  | _, .abandoned c' => if c' = c then some .abandon else none
  | _, _ => none

def feed (c : ConnectionId) (k : Audience) : Gate → List Moment → List Fifo.Input
  | _, [] => []
  | gate, moment :: rest => (gate.input? c k moment).toList ++ feed c k (gate.pass c moment) rest

end Gate

/-- The event that a command has for an audience. -/
def Command.event? (k : Audience) : Command → Option Event
  | send m => if m.scope.covers k then some m.event else none
  | _ => none

/-- The commands from the registration of a connection on. -/
def Command.since (c : ConnectionId) (applied : List Command) : List Command :=
  applied.dropWhile (·.entrant? ≠ some c)

/-- What the commands have for a connection between its registration and its end. -/
def Command.addressed (c : ConnectionId) (k : Audience) (applied : List Command) : List Event :=
  ((since c applied).takeWhile (· ≠ .unregister c)).filterMap (event? k)

namespace Gate

open Hub Command

variable {c : ConnectionId} {k : Audience} {moment : Moment}

theorem eq_applied {command : Command} (h : moment.command? = some command) :
    moment = .applied command := by
  cases moment <;> simp_all [Moment.command?]

theorem pass_of_deed (h : moment.command? = none) (gate : Gate) : gate.pass c moment = gate := by
  cases moment <;> cases gate <;> simp_all [Moment.command?, pass]

theorem offered_of_deed (h : moment.command? = none) (gate : Gate) :
    (gate.input? c k moment).toList.filterMap Fifo.Input.offered? = [] := by
  cases moment <;> simp_all [Moment.command?, input?, Fifo.Input.offered?]

theorem offered_feed_left (moments : List Moment) :
    (feed c k left moments).filterMap Fifo.Input.offered? = [] := by
  induction moments with
  | nil => rfl
  | cons moment rest ih =>
    have hinput : (input? c k left moment).toList.filterMap Fifo.Input.offered? = [] := by
      cases hm : moment.command? with
      | none => exact offered_of_deed hm left
      | some command =>
        rw [eq_applied hm]
        rfl
    rw [feed, List.filterMap_append, hinput, List.nil_append]
    exact ih

theorem offered_feed_entered (moments : List Moment) :
    (feed c k entered moments).filterMap Fifo.Input.offered? =
      ((moments.filterMap Moment.command?).takeWhile (· ≠ .unregister c)).filterMap
        (event? k) := by
  induction moments with
  | nil => rfl
  | cons moment rest ih =>
    rw [feed, List.filterMap_append]
    cases hm : moment.command? with
    | none =>
      rw [pass_of_deed hm, offered_of_deed hm, List.filterMap_cons_none hm]
      exact ih
    | some command =>
      rw [List.filterMap_cons_some hm, eq_applied hm]
      cases command with
      | unregister c' =>
        by_cases hc : c' = c
        · subst hc
          simp [input?, pass, offered_feed_left, Fifo.Input.offered?]
        · simp [input?, pass, hc, ih, event?, List.filterMap_cons]
      | send m =>
        by_cases hcover : m.scope.covers k <;>
          simp [input?, pass, hcover, ih, event?, Fifo.Input.offered?]
      | register c' a => simp [input?, pass, ih, event?, List.filterMap_cons]
      | stats ticket => simp [input?, pass, ih, event?, List.filterMap_cons]

/-- What is offered to a queue is read off the applied commands alone. -/
theorem offered_feed (moments : List Moment) :
    (feed c k awaited moments).filterMap Fifo.Input.offered? =
      addressed c k (moments.filterMap Moment.command?) := by
  induction moments with
  | nil => rfl
  | cons moment rest ih =>
    rw [feed, List.filterMap_append]
    cases hm : moment.command? with
    | none =>
      rw [pass_of_deed hm, offered_of_deed hm, List.filterMap_cons_none hm]
      exact ih
    | some command =>
      rw [List.filterMap_cons_some hm, eq_applied hm]
      cases command with
      | register c' a =>
        by_cases hc : c' = c
        · subst hc
          simp [input?, pass, offered_feed_entered, addressed, since, entrant?, event?,
            List.filterMap_cons]
        · simp [input?, pass, hc, ih, addressed, since, entrant?]
      | unregister c' => simp [input?, pass, ih, addressed, since, entrant?]
      | send m => simp [input?, pass, ih, addressed, since, entrant?]
      | stats ticket => simp [input?, pass, ih, addressed, since, entrant?]

/-- Where a subscription stands after a part of a run. -/
def passAll (c : ConnectionId) (gate : Gate) (moments : List Moment) : Gate :=
  moments.foldl (pass c) gate

theorem feed_append (gate : Gate) (first rest : List Moment) :
    feed c k gate (first ++ rest) =
      feed c k gate first ++ feed c k (gate.passAll c first) rest := by
  induction first generalizing gate with
  | nil => rfl
  | cons moment first ih =>
    rw [List.cons_append, feed, feed, ih, List.append_assoc]
    rfl

theorem passAll_append (gate : Gate) (first rest : List Moment) :
    gate.passAll c (first ++ rest) = (gate.passAll c first).passAll c rest := List.foldl_append

theorem passAll_left (moments : List Moment) : passAll c left moments = left := by
  induction moments with
  | nil => rfl
  | cons moment rest ih => exact ih

theorem passAll_entered (moments : List Moment) : passAll c entered moments = left ↔
    .unregister c ∈ moments.filterMap Moment.command? := by
  induction moments with
  | nil => simp [passAll]
  | cons moment rest ih =>
    rw [passAll, List.foldl_cons, ← passAll]
    cases hm : moment.command? with
    | none =>
      rw [pass_of_deed hm, List.filterMap_cons_none hm]
      exact ih
    | some command =>
      rw [List.filterMap_cons_some hm, eq_applied hm]
      cases command with
      | unregister c' =>
        by_cases hc : c' = c
        · subst hc
          simp [pass, passAll_left]
        · simp [pass, hc, ih, Ne.symm hc]
      | register c' a => simp [pass, ih]
      | send m => simp [pass, ih]
      | stats ticket => simp [pass, ih]

/-- A subscription has ended when it was taken back since its registration. -/
theorem passAll_awaited (moments : List Moment) : passAll c awaited moments = left ↔
    .unregister c ∈ since c (moments.filterMap Moment.command?) := by
  induction moments with
  | nil => simp [passAll, since]
  | cons moment rest ih =>
    rw [passAll, List.foldl_cons, ← passAll]
    cases hm : moment.command? with
    | none =>
      rw [pass_of_deed hm, List.filterMap_cons_none hm]
      exact ih
    | some command =>
      rw [List.filterMap_cons_some hm, eq_applied hm]
      cases command with
      | register c' a =>
        by_cases hc : c' = c
        · subst hc
          simp [pass, passAll_entered, since, entrant?]
        · simp [pass, hc, ih, since, entrant?]
      | unregister c' => simp [pass, ih, since, entrant?]
      | send m => simp [pass, ih, since, entrant?]
      | stats ticket => simp [pass, ih, since, entrant?]

end Gate

namespace Hub

variable {hub : Hub} {c : ConnectionId} {k : Audience} {gate : Gate} {q : Fifo}

/-- A subscription of the hub in step with its reference queue. -/
structure Mirrors (hub : Hub) (c : ConnectionId) (k : Audience) (gate : Gate) (q : Fifo) :
    Prop where
  orderly : hub.Orderly
  running : hub.running = true
  box : hub.mailbox? c = some ⟨q.waiting, !q.ended, q.intake⟩
  ended : q.ended = decide (gate = .left)
  listed : hub.registry.audiences.get? c = if gate = .entered then some k else none
  sought : ∀ a, .register c a ∈ hub.pending → a = k

theorem Mirrors.attached (h : hub.Mirrors c k gate q) :
    hub.keeps? c = some (decide (gate ≠ .left)) := by
  rw [keeps?, h.box, h.ended]
  simp

/-- What is not in the way of a subscription leaves it in step. -/
theorem Mirrors.of_eq {hub' : Hub} (h : hub.Mirrors c k gate q) (ho : hub'.Orderly)
    (hrunning : hub'.running = hub.running) (hbox : hub'.mailbox? c = hub.mailbox? c)
    (hregistry : hub'.registry = hub.registry)
    (hpending : ∀ a, .register c a ∈ hub'.pending → .register c a ∈ hub.pending) :
    hub'.Mirrors c k gate q where
  orderly := ho
  running := hrunning.trans h.running
  box := hbox.trans h.box
  ended := h.ended
  listed := hregistry ▸ h.listed
  sought a ha := h.sought a (hpending a ha)

theorem Mirrors.submit (h : hub.Mirrors c k gate q) {command : Command}
    (hc : command.entrant? = none) : (hub.submit command).Mirrors c k gate q := by
  refine h.of_eq (h.orderly.submit hc) (submit_running command) (submit_mailbox? command c)
    (submit_registry command) ?_
  intro a ha
  rw [Hub.submit, if_pos h.running, List.mem_append, List.mem_singleton] at ha
  rcases ha with ha | rfl
  · exact ha
  · simp [Command.entrant?] at hc

theorem Mirrors.register (h : hub.Mirrors c k gate q) (a : Audience) :
    (hub.register a).2.Mirrors c k gate q := by
  have hlt : c.number < hub.nextConnection := h.orderly.known c (by simp [h.attached])
  have hne : c ≠ ⟨hub.nextConnection⟩ := by
    intro hc
    simp [hc] at hlt
  have hpending : (hub.register a).2.pending =
      hub.pending ++ [.register ⟨hub.nextConnection⟩ a] := by
    simp [Hub.register, freshConnection, Hub.submit, h.running]
  refine h.of_eq (h.orderly.register a) ?_ ?_ ?_ ?_
  · simp [Hub.register, freshConnection]
  · rw [Hub.register]
    simp [mailbox?, freshConnection, h.running, Hub.submit, hne]
  · simp [Hub.register, freshConnection]
  · intro a' ha
    rw [hpending, List.mem_append, List.mem_singleton] at ha
    rcases ha with ha | ha
    · exact ha
    · exact absurd (Command.register.inj ha).1 hne

/-- What the receiver of a mailbox does to it is what the moment is for the reference queue. -/
theorem Mirrors.updateMailbox (h : hub.Mirrors c k gate q) {f : Mailbox → Mailbox}
    {q' : Fifo} {c' : ConnectionId} (hf : ∀ box, (f box).attached = box.attached)
    (hsame : c' ≠ c → q' = q) (hended : q'.ended = q.ended)
    (hq : c' = c → f ⟨q.waiting, !q.ended, q.intake⟩ = ⟨q'.waiting, !q'.ended, q'.intake⟩) :
    (hub.updateMailbox c' f).Mirrors c k gate q' where
  orderly := h.orderly.updateMailbox fun box _ => hf box
  running := h.running
  box := by
    rw [mailbox?, Hub.updateMailbox, Table.get?_modify]
    by_cases hc : c' = c
    · rw [if_pos hc.symm, ← mailbox?, h.box, Option.map_some, hq hc]
    · rw [if_neg (Ne.symm hc), ← mailbox?, h.box, hsame hc]
  ended := hended.trans h.ended
  listed := h.listed
  sought := h.sought

/-! ### One command of the loop -/

theorem Mirrors.step_of (h : hub.Mirrors c k gate q) {command : Command} {rest : List Command}
    (hp : hub.pending = command :: rest) {gate' : Gate} {q' : Fifo}
    (hbox : hub.step.mailbox? c = some ⟨q'.waiting, !q'.ended, q'.intake⟩)
    (hended : q'.ended = decide (gate' = .left))
    (hlisted : command.restate c (if gate = .entered then some k else none) =
      if gate' = .entered then some k else none) : hub.step.Mirrors c k gate' q' where
  orderly := h.orderly.step
  running := step_running.trans h.running
  box := hbox
  ended := hended
  listed := by rw [step_audiences hp, h.listed, hlisted]
  sought a ha := by
    have hpending : hub.step.pending = rest := by
      rw [Hub.step_cons hp, apply_pending]
      rfl
    rw [hpending] at ha
    exact h.sought a (by simp [hp, ha])

/-- A command that has nothing for the mailbox and does not move the subscription. -/
theorem Mirrors.step_idle (h : hub.Mirrors c k gate q) {command : Command}
    {rest : List Command} (hp : hub.pending = command :: rest)
    (hbox : hub.step.mailbox? c = hub.mailbox? c)
    (hinput : gate.input? c k (.applied command) = none)
    (hpass : gate.pass c (.applied command) = gate)
    (hlisted : command.restate c (if gate = .entered then some k else none) =
      if gate = .entered then some k else none) :
    hub.step.Mirrors c k (gate.pass c (.applied command))
      (q.follow hub.capacity (gate.input? c k (.applied command)).toList) := by
  rw [hinput, hpass]
  exact h.step_of hp (hbox.trans h.box) h.ended hlisted

theorem Mirrors.step_mailbox? (h : hub.Mirrors c k gate q) {command : Command}
    {rest : List Command} (hp : hub.pending = command :: rest) : hub.step.mailbox? c =
      match command with
      | .unregister c' =>
        if c = c' ∧ gate = .entered then (hub.mailbox? c).map Mailbox.detach
        else hub.mailbox? c
      | .send m =>
        if gate = .entered ∧ m.scope.covers k then
          (hub.mailbox? c).map fun box => (box.offer hub.capacity m.event).2
        else hub.mailbox? c
      | _ => hub.mailbox? c := by
  have hbox : ((hub.popped rest).apply command).mailbox? c = _ :=
    mailbox?_apply (hub.popped rest) h.orderly.indexed command c
  rw [Hub.step_cons hp, hbox, popped_registry, h.listed]
  cases command with
  | unregister c' => cases gate <;> simp <;> rfl
  | send m => cases gate <;> simp <;> rfl
  | register c' a => rfl
  | stats ticket => rfl

/-- A subscription is entered once, for the audience that it asked for. -/
theorem Mirrors.step_register (h : hub.Mirrors c k gate q) {c' : ConnectionId} {a : Audience}
    {rest : List Command} (hp : hub.pending = .register c' a :: rest) :
    hub.step.Mirrors c k (gate.pass c (.applied (.register c' a)))
      (q.follow hub.capacity (gate.input? c k (.applied (.register c' a))).toList) := by
  have hbox := h.step_mailbox? hp
  have hinput : gate.input? c k (.applied (.register c' a)) = none := by cases gate <;> rfl
  by_cases hc : c' = c
  · subst hc
    have hin : c' ∈ hub.awaited := by simp [awaited, hp, Command.entrant?]
    have hkept := (h.orderly.keeps_iff c').mpr (Or.inl hin)
    have hnone := h.orderly.awaited_absent c' hin
    have hk : a = k := h.sought a (by simp [hp])
    rw [h.attached] at hkept
    rw [h.listed] at hnone
    cases gate with
    | awaited =>
      have hpass : Gate.awaited.pass c' (.applied (.register c' a)) = .entered := by
        simp [Gate.pass]
      rw [hinput, hpass]
      exact h.step_of hp (hbox.trans h.box) h.ended (by simp [Command.restate, hk])
    | entered => simp at hnone
    | left => simp at hkept
  · refine h.step_idle hp hbox hinput ?_ ?_
    · cases gate <;> simp [Gate.pass, hc]
    · simp [Command.restate, Ne.symm hc]

theorem Mirrors.step_unregister (h : hub.Mirrors c k gate q) {c' : ConnectionId}
    {rest : List Command} (hp : hub.pending = .unregister c' :: rest) :
    hub.step.Mirrors c k (gate.pass c (.applied (.unregister c')))
      (q.follow hub.capacity (gate.input? c k (.applied (.unregister c'))).toList) := by
  have hbox := h.step_mailbox? hp
  by_cases hc : c' = c ∧ gate = .entered
  · obtain ⟨rfl, rfl⟩ := hc
    have hinput : Gate.entered.input? c' k (.applied (.unregister c')) = some .close := by
      simp [Gate.input?]
    have hpass : Gate.entered.pass c' (.applied (.unregister c')) = .left := by
      simp [Gate.pass]
    rw [hinput, hpass]
    refine h.step_of hp ?_ rfl ?_
    · rw [hbox, h.box]
      simp [Fifo.follow, Fifo.accept, Mailbox.detach]
    · simp [Command.restate]
  · refine h.step_idle hp ?_ ?_ ?_ ?_
    · rw [hbox]
      grind
    · cases gate <;> grind [Gate.input?]
    · cases gate <;> grind [Gate.pass]
    · cases gate <;> grind [Command.restate]

theorem Mirrors.step_send (h : hub.Mirrors c k gate q) {m : Message} {rest : List Command}
    (hp : hub.pending = .send m :: rest) :
    hub.step.Mirrors c k (gate.pass c (.applied (.send m)))
      (q.follow hub.capacity (gate.input? c k (.applied (.send m))).toList) := by
  have hbox := h.step_mailbox? hp
  have hpass : gate.pass c (.applied (.send m)) = gate := by cases gate <;> rfl
  by_cases hm : gate = .entered ∧ m.scope.covers k
  · have hinput : gate.input? c k (.applied (.send m)) = some (.offer m.event) := by
      rw [hm.1]
      simp [Gate.input?, hm.2]
    have hfollow : q.follow hub.capacity [.offer m.event] =
        q.accept hub.capacity (.offer m.event) := rfl
    simp only [if_pos hm, h.box, Option.map_some] at hbox
    rw [hinput, hpass, Option.toList_some, hfollow]
    refine h.step_of hp ?_ ?_ rfl
    · rw [hbox, Fifo.accept, Mailbox.offer]
      grind
    · rw [← h.ended, Fifo.accept]
      split <;> rfl
  · refine h.step_idle hp ?_ ?_ hpass rfl
    · rw [hbox]
      exact if_neg hm
    · cases gate <;> simp_all [Gate.input?]

/-- The loop applies a command: the queue is fed with what the command is for it. -/
theorem Mirrors.step_cons (h : hub.Mirrors c k gate q) {command : Command}
    {rest : List Command} (hp : hub.pending = command :: rest) :
    hub.step.Mirrors c k (gate.pass c (.applied command))
      (q.follow hub.capacity (gate.input? c k (.applied command)).toList) := by
  cases command with
  | register c' a => exact h.step_register hp
  | unregister c' => exact h.step_unregister hp
  | send m => exact h.step_send hp
  | stats ticket =>
    refine h.step_idle hp (h.step_mailbox? hp) ?_ ?_ rfl
    · cases gate <;> rfl
    · cases gate <;> rfl

/-! ### Runs -/

theorem Mirrors.take (h : hub.Mirrors c k gate q) (c' : ConnectionId) :
    (hub.perform (.take c')).Mirrors c k gate
      (q.follow hub.capacity (gate.input? c k (.taken c')).toList) := by
  have hinput : gate.input? c k (.taken c') = if c' = c then some .take else none := by
    cases gate <;> rfl
  rw [hinput]
  refine h.updateMailbox Mailbox.take_attached ?_ ?_ ?_
  · intro hc
    rw [if_neg hc]
    rfl
  · split <;> rfl
  · intro hc
    rw [if_pos hc]
    cases hw : q.waiting <;> simp [Fifo.follow, Fifo.accept, Mailbox.take, hw]

theorem Mirrors.refuseMore (h : hub.Mirrors c k gate q) (c' : ConnectionId) :
    (hub.perform (.refuseMore c')).Mirrors c k gate
      (q.follow hub.capacity (gate.input? c k (.refused c')).toList) := by
  have hinput : gate.input? c k (.refused c') = if c' = c then some .refuseMore else none := by
    cases gate <;> rfl
  have hended : (q.accept hub.capacity .refuseMore).ended = q.ended := by
    rw [Fifo.accept]
    split <;> rfl
  rw [hinput]
  refine h.updateMailbox Mailbox.refuseMore_attached ?_ ?_ ?_
  · intro hc
    rw [if_neg hc]
    rfl
  · split
    · exact hended
    · rfl
  · intro hc
    rw [if_pos hc]
    cases hi : q.intake <;> simp [Fifo.follow, Fifo.accept, Mailbox.refuseMore, hi]

theorem Mirrors.abandon (h : hub.Mirrors c k gate q) (c' : ConnectionId) :
    (hub.perform (.abandon c')).Mirrors c k gate
      (q.follow hub.capacity (gate.input? c k (.abandoned c')).toList) := by
  have hinput : gate.input? c k (.abandoned c') = if c' = c then some .abandon else none := by
    cases gate <;> rfl
  rw [hinput]
  refine h.updateMailbox (fun _ => rfl) ?_ ?_ ?_
  · intro hc
    rw [if_neg hc]
    rfl
  · split <;> rfl
  · intro hc
    rw [if_pos hc]
    rfl

/-- Whatever happens, the subscription and its reference queue stay in step. -/
theorem Mirrors.perform (h : hub.Mirrors c k gate q) (act : Act) :
    (hub.perform act).Mirrors c k (gate.passAll c (hub.moment? act).toList)
      (q.follow hub.capacity (Gate.feed c k gate (hub.moment? act).toList)) := by
  cases act with
  | register a => exact h.register a
  | unregister c' => exact h.submit rfl
  | send m => exact h.submit rfl
  | sendTo audiences e =>
    rw [Hub.perform, Hub.sendTo]
    split
    · exact h.of_eq (h.orderly.log _) rfl rfl rfl fun _ ha => ha
    · exact h.submit rfl
  | sendToStudents students e =>
    rw [Hub.perform, Hub.sendToStudents, Hub.sendTo]
    split
    · exact h.of_eq (h.orderly.log _) rfl rfl rfl fun _ ha => ha
    · exact h.submit rfl
  | askStats =>
    have ht : { hub with nextTicket := hub.nextTicket + 1 }.Mirrors c k gate q :=
      h.of_eq (h.orderly.of_eq rfl rfl (fun _ => rfl) (Nat.le_refl _)) rfl rfl rfl fun _ ha => ha
    exact ht.submit rfl
  | step =>
    cases hp : hub.pending with
    | nil =>
      simp only [Hub.perform, step_nil hp, moment?, hp]
      exact h
    | cons command rest =>
      have hstep := h.step_cons hp
      simpa [Hub.perform, moment?, hp, Gate.feed, Gate.passAll] using hstep
  | take c' =>
    have hpass : gate.pass c (.taken c') = gate := Gate.pass_of_deed rfl gate
    simpa [moment?, Gate.feed, Gate.passAll, hpass] using h.take c'
  | refuseMore c' =>
    have hpass : gate.pass c (.refused c') = gate := Gate.pass_of_deed rfl gate
    simpa [moment?, Gate.feed, Gate.passAll, hpass] using h.refuseMore c'
  | abandon c' =>
    have hpass : gate.pass c (.abandoned c') = gate := Gate.pass_of_deed rfl gate
    simpa [moment?, Gate.feed, Gate.passAll, hpass] using h.abandon c'

theorem Mirrors.receipt (h : hub.Mirrors c k gate q) (act : Act) :
    (q.follow hub.capacity (Gate.feed c k gate (hub.moment? act).toList)).received =
      q.received ++ hub.receipt c act := by
  cases act with
  | take c' =>
    have hinput : gate.input? c k (.taken c') = if c' = c then some .take else none := by
      cases gate <;> rfl
    have hbox := h.box
    simp only [moment?, Option.toList_some, Gate.feed, List.append_nil, hinput, Hub.receipt]
    split
    · rw [hbox]
      cases hw : q.waiting <;> simp [Fifo.follow, Fifo.accept, Mailbox.take, hw]
    · simp [Fifo.follow]
  | step =>
    cases hp : hub.pending with
    | nil => simp [moment?, hp, Gate.feed, Fifo.follow, Hub.receipt]
    | cons command rest =>
      simp only [moment?, hp, List.head?_cons, Option.map_some, Option.toList_some, Gate.feed,
        List.append_nil, Hub.receipt]
      cases gate <;> cases command <;> simp only [Gate.input?] <;>
        grind [Fifo.follow, Fifo.accept]
  | refuseMore c' =>
    simp only [moment?, Option.toList_some, Gate.feed, List.append_nil, Hub.receipt]
    cases gate <;> grind [Gate.input?, Fifo.follow, Fifo.accept]
  | abandon c' =>
    simp only [moment?, Option.toList_some, Gate.feed, List.append_nil, Hub.receipt]
    cases gate <;> grind [Gate.input?, Fifo.follow, Fifo.accept]
  | _ => simp [moment?, Gate.feed, Fifo.follow, Hub.receipt]

theorem Mirrors.run (h : hub.Mirrors c k gate q) (acts : List Act) :
    (hub.run acts).Mirrors c k (gate.passAll c (hub.history acts))
        (q.follow hub.capacity (Gate.feed c k gate (hub.history acts))) ∧
      (q.follow hub.capacity (Gate.feed c k gate (hub.history acts))).received =
        q.received ++ hub.receipts c acts := by
  induction acts generalizing hub gate q with
  | nil => exact ⟨h, (List.append_nil _).symm⟩
  | cons act rest ih =>
    obtain ⟨hmirrors, hreceived⟩ := ih (h.perform act)
    have hhistory : hub.history (act :: rest) =
        (hub.moment? act).toList ++ (hub.perform act).history rest := rfl
    have hreceipts : hub.receipts c (act :: rest) =
        hub.receipt c act ++ (hub.perform act).receipts c rest := rfl
    have hfollow (first last : List Fifo.Input) : q.follow hub.capacity (first ++ last) =
        (q.follow hub.capacity first).follow hub.capacity last := List.foldl_append
    rw [perform_capacity] at hmirrors hreceived
    rw [hhistory, hreceipts, Gate.feed_append, Gate.passAll_append, hfollow]
    refine ⟨hmirrors, ?_⟩
    rw [hreceived, h.receipt act, List.append_assoc]

theorem mirrors_register (h : hub.Orderly) (hr : hub.running = true) (k : Audience) :
    (hub.register k).2.Mirrors ⟨hub.nextConnection⟩ k .awaited .fresh where
  orderly := h.register k
  running := by simp [register, freshConnection, hr]
  box := by simp [register, freshConnection, hr, submit, mailbox?, Mailbox.fresh, Fifo.fresh]
  ended := rfl
  listed := by simp [register, freshConnection, h.next_absent.2]
  sought a ha := by
    have hnot := h.next_absent.1
    simp only [register, freshConnection, hr, submit, if_pos, List.mem_append,
      List.mem_singleton] at ha
    rcases ha with ha | ha
    · have hin : ⟨hub.nextConnection⟩ ∈ hub.awaited := List.mem_filterMap.mpr ⟨_, ha, rfl⟩
      exact absurd hin hnot
    · exact (Command.register.inj ha).2

/-- A subscription opened at any point of any run: what it has received and what waits for it are
those of one bounded queue that was offered, once and in order, what the applied commands had for it
between its registration and its end. -/
theorem run_refines_fifo (capacity : Nat) (hpos : 0 < capacity) (before after : List Act)
    (k : Audience) :
    let earlier := (start capacity hpos).run before
    let c := (earlier.register k).1
    let opened := (earlier.register k).2
    let last := opened.run after
    let history := opened.history after
    let applied := history.filterMap Moment.command?
    let feed := Gate.feed c k .awaited history
    let queue := Fifo.fresh.follow capacity feed
    (∃ box, last.mailbox? c = some box ∧ box.waiting = queue.waiting ∧
      box.isClosed = queue.isClosed ∧
      (box.attached = false ↔ .unregister c ∈ Command.since c applied)) ∧
    opened.receipts c after = queue.received ∧
    feed.filterMap Fifo.Input.offered? = Command.addressed c k applied ∧
    (queue.received ++ queue.waiting).Sublist (Command.addressed c k applied) ∧
    queue.waiting.length ≤ capacity ∧
    earlier.pending ++ .register c k :: opened.submissions after = applied ++ last.pending := by
  intro earlier c opened last history applied feed queue
  have hstart : (start capacity hpos).Orderly := orderly_start capacity hpos
  have hrunning : earlier.running = true := run_running before
  have hcapacity : opened.capacity = capacity := by
    have hc : earlier.capacity = capacity := run_capacity before
    simp only [opened, register, freshConnection, submit_capacity, hc]
  have hopened : opened.Mirrors c k .awaited .fresh :=
    mirrors_register (hstart.run before) hrunning k
  have hrun := hopened.run after
  rw [hcapacity] at hrun
  have hlast : last.Mirrors c k (Gate.passAll c .awaited history) queue := hrun.1
  have hreceived : queue.received = opened.receipts c after := hrun.2
  have hoffered : feed.filterMap Fifo.Input.offered? = Command.addressed c k applied :=
    Gate.offered_feed history
  have hpending : opened.pending = earlier.pending ++ [.register c k] := by
    simp only [opened, register, freshConnection, submit, hrunning, if_pos]
    rfl
  refine ⟨⟨_, hlast.box, rfl, ?_, ?_⟩, hreceived.symm, hoffered, ?_, ?_, ?_⟩
  · rw [Mailbox.isClosed, Fifo.isClosed, Bool.not_not]
  · rw [hlast.ended, ← Gate.passAll_awaited]
    simp
  · have hkept := Fifo.follow_kept_sublist capacity .fresh feed
    rwa [hoffered] at hkept
  · exact Fifo.follow_waiting_length (Nat.zero_le _) feed
  · have hall := applied_append_pending hopened.running after
    rw [← hall, hpending, List.append_assoc]
    rfl

/-- A student's connection is named twice by one message, is left out of another, and has room for
two events only; it is taken back in the end. -/
theorem run_refines_fifo_student : 0 < 2 ∧
    let opened := ((start 2 (by decide)).register (.student 5)).2
    let after : List Act := [.step, .sendToStudents [5, 5] .hello, .sendTo [.unfiltered] .hello,
      .send ⟨.broadcast, .invalidate .grades⟩, .send ⟨.broadcast, .invalidate .courses⟩, .step,
      .step, .step, .step, .take ⟨0⟩, .unregister ⟨0⟩, .step]
    opened.receipts ⟨0⟩ after = [.hello] ∧
      ∃ box, (opened.run after).mailbox? ⟨0⟩ = some box ∧ box.isClosed = true ∧
        box.waiting = [.invalidate .grades] := by
  refine ⟨by decide, ?_⟩
  intro opened after
  obtain ⟨⟨box, hbox, hwaiting, hclosed, -⟩, hreceived, -⟩ :=
    run_refines_fifo 2 (by decide) [] after (.student 5)
  exact ⟨hreceived.trans (by decide), box, hbox, hclosed.trans (by decide),
    hwaiting.trans (by decide)⟩

end Hub
end LiveUpdate
