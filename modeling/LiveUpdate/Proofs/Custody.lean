import LiveUpdate.Proofs.HubOrder
import LiveUpdate.Proofs.Ledger
import LiveUpdate.Proofs.PairRules
import LiveUpdate.Proofs.WebRuns

/-! The books of a session behind the router. Every step keeps them: response bodies, greetings and
pairs of pumps each look after one connection, and no other place knows of it. -/
namespace LiveUpdate

namespace Hub

variable {hub hub' : Hub} {c : ConnectionId}

/-- Whether the receiving end of a mailbox is there and takes events. -/
def listens (hub : Hub) (c : ConnectionId) : Bool :=
  (hub.mailbox? c).any fun box => box.intake = .listening

theorem listens_updateMailbox {c' : ConnectionId} {f : Mailbox → Mailbox}
    (hf : ∀ box, hub.mailbox? c' = some box → (f box).intake = box.intake) :
    (hub.updateMailbox c' f).listens c = hub.listens c := by
  simp only [listens, mailbox?, updateMailbox, Table.get?_modify] at hf ⊢
  split
  · rename_i hc
    rw [hc]
    cases hbox : hub.mailboxes.get? c' with
    | none => rfl
    | some box => simp [hf box hbox]
  · rfl

theorem listens_updateMailbox_of_ne {c' : ConnectionId} (hc : c ≠ c') (f : Mailbox → Mailbox) :
    (hub.updateMailbox c' f).listens c = hub.listens c := by
  simp only [listens, mailbox?, updateMailbox, Table.get?_modify, if_neg hc]

@[simp] theorem listens_submit (command : Command) :
    (hub.submit command).listens c = hub.listens c := by
  rw [listens, submit_mailbox?, listens]

theorem listens_register (hr : hub.running = true) (a : Audience) :
    (hub.register a).2.listens c = (decide (c = ⟨hub.nextConnection⟩) || hub.listens c) := by
  rw [register_eq, listens_submit]
  simp only [listens, mailbox?, opened, hr, if_true, Table.get?_insert]
  split
  · simp [*, Mailbox.fresh]
  · simp [*]

theorem listens_step (h : hub.Orderly) : hub.step.listens c = hub.listens c := by
  cases hp : hub.pending with
  | nil => rw [step_nil hp]
  | cons command rest =>
    have hbox := mailbox?_apply (hub.popped rest) h.indexed command c
    have hold : (hub.popped rest).mailbox? c = hub.mailbox? c := rfl
    rw [← step_cons hp, hold] at hbox
    rw [listens, hbox, listens]
    cases command with
    | unregister c' =>
      simp only []
      split
      · cases hub.mailbox? c <;> rfl
      · rfl
    | send m =>
      simp only []
      split
      · cases hub.mailbox? c <;> simp
      · rfl
    | register c' a => rfl
    | stats ticket => rfl

/-- The hub goes on in a way that concerns none of those who look after a connection. -/
structure Continues (hub hub' : Hub) : Prop where
  orderly : hub'.Orderly
  running : hub'.running = true
  expected : ∀ c, (hub'.prospect c).isSome = (hub.prospect c).isSome
  listens : ∀ c, hub.listens c = true → hub'.listens c = true
  next : hub'.nextConnection = hub.nextConnection

theorem Continues.refl (h : hub.Orderly) (hr : hub.running = true) : hub.Continues hub :=
  ⟨h, hr, fun _ => rfl, fun _ hl => hl, rfl⟩

theorem continues_logAll (h : hub.Orderly) (hr : hub.running = true) (entries : List Entry) :
    hub.Continues (hub.logAll entries) :=
  ⟨h.logAll entries, hr, fun _ => rfl, fun _ hl => hl, rfl⟩

theorem continues_updateMailbox (h : hub.Orderly) (hr : hub.running = true)
    {f : Mailbox → Mailbox} (hf : ∀ box, hub.mailbox? c = some box →
      (f box).attached = box.attached ∧ (f box).intake = box.intake) :
    hub.Continues (hub.updateMailbox c f) where
  orderly := h.updateMailbox fun box hbox => (hf box hbox).1
  running := hr
  expected _ := rfl
  listens c' hl := by
    rwa [listens_updateMailbox fun box hbox => (hf box hbox).2]
  next := rfl

theorem continues_step (h : hub.Orderly) (hr : hub.running = true) : hub.Continues hub.step := by
  have hnext : hub.step.nextConnection = hub.nextConnection ∧ hub.step.running = true := by
    cases hp : hub.pending with
    | nil =>
      rw [step_nil hp]
      exact ⟨rfl, hr⟩
    | cons command rest =>
      rw [step_cons hp, apply_nextConnection, apply_running]
      exact ⟨rfl, hr⟩
  refine ⟨h.step, hnext.2, fun c => by rw [prospect_step], fun c hl => ?_, hnext.1⟩
  rwa [listens_step h]

theorem Continues.submit (h : hub.Continues hub') {command : Command}
    (hc : command.entrant? = none) (hu : ∀ c, command ≠ .unregister c) :
    hub.Continues (hub'.submit command) where
  orderly := h.orderly.submit hc
  running := by rw [submit_running, h.running]
  expected c := by
    rw [prospect_submit h.running, ← h.expected c]
    cases command with
    | register c' a => cases hc
    | unregister c' => exact absurd rfl (hu c')
    | send m => rfl
    | stats ticket => rfl
  listens c hl := by
    rw [listens_submit]
    exact h.listens c hl
  next := by rw [submit_nextConnection, h.next]

theorem Continues.submitSends (h : hub.Continues hub') (messages : List Message) :
    hub.Continues (hub'.submitAll (messages.map .send)) := by
  induction messages generalizing hub' with
  | nil => exact h
  | cons m rest ih => exact ih (h.submit rfl (fun c hc => by cases hc))

theorem Continues.of_eq {hub'' : Hub} (h : hub.Continues hub') (ho : hub''.Orderly)
    (hrunning : hub''.running = hub'.running) (hregistry : hub''.registry = hub'.registry)
    (hpending : hub''.pending = hub'.pending) (hmailboxes : hub''.mailboxes = hub'.mailboxes)
    (hnext : hub''.nextConnection = hub'.nextConnection) : hub.Continues hub'' where
  orderly := ho
  running := hrunning.trans h.running
  expected c := by rw [prospect_of_eq hregistry hpending, h.expected]
  listens c hl := by
    have hsame := h.listens c hl
    rw [Hub.listens, mailbox?] at hsame ⊢
    rwa [hmailboxes]
  next := hnext.trans h.next

/-- The hub goes on in a way that concerns only whoever looks after one connection: whether it is
still claimed, and whether its mailbox is still received from. -/
structure Amends (hub hub' : Hub) (c : ConnectionId) (claims receives : Bool) : Prop where
  orderly : hub'.Orderly
  running : hub'.running = true
  claims : (hub'.prospect c).isSome = claims
  receives : receives = true → hub'.listens c = true
  expected : ∀ c', c' ≠ c → (hub'.prospect c').isSome = (hub.prospect c').isSome
  listens : ∀ c', c' ≠ c → hub.listens c' = true → hub'.listens c' = true
  next : hub'.nextConnection = hub.nextConnection

variable {claims receives : Bool}

theorem Continues.amends (h : hub.Continues hub') (hclaims : (hub.prospect c).isSome = claims)
    (hreceives : receives = true → hub.listens c = true) :
    hub.Amends hub' c claims receives where
  orderly := h.orderly
  running := h.running
  claims := (h.expected c).trans hclaims
  receives hr := h.listens c (hreceives hr)
  expected c' _ := h.expected c'
  listens c' _ := h.listens c'
  next := h.next

theorem Amends.logAll (h : hub.Amends hub' c claims receives) (entries : List Entry) :
    hub.Amends (hub'.logAll entries) c claims receives :=
  ⟨h.orderly.logAll entries, h.running, h.claims, h.receives, h.expected, h.listens, h.next⟩

theorem Amends.unregister (h : hub.Amends hub' c claims receives) :
    hub.Amends (hub'.unregister c) c false receives where
  orderly := h.orderly.submit rfl
  running := by rw [Hub.unregister, submit_running, h.running]
  claims := by
    rw [Hub.unregister, prospect_submit h.running]
    simp [Command.restate]
  receives hr := by
    rw [Hub.unregister, listens_submit]
    exact h.receives hr
  expected c' hc := by
    rw [Hub.unregister, prospect_submit h.running, ← h.expected c' hc]
    simp [Command.restate, hc]
  listens c' hc hl := by
    rw [Hub.unregister, listens_submit]
    exact h.listens c' hc hl
  next := by rw [Hub.unregister, submit_nextConnection, h.next]

theorem Amends.updateMailbox (h : hub.Amends hub' c claims receives) {f : Mailbox → Mailbox}
    (hf : ∀ box, hub'.mailbox? c = some box → (f box).attached = box.attached)
    {receives' : Bool} (hr : receives' = true → (hub'.updateMailbox c f).listens c = true) :
    hub.Amends (hub'.updateMailbox c f) c claims receives' where
  orderly := h.orderly.updateMailbox hf
  running := h.running
  claims := h.claims
  receives := hr
  expected := h.expected
  listens c' hc hl := by
    rw [listens_updateMailbox_of_ne hc]
    exact h.listens c' hc hl
  next := h.next

theorem Amends.abandon (h : hub.Amends hub' c claims receives) :
    hub.Amends (hub'.updateMailbox c Mailbox.abandon) c claims false :=
  h.updateMailbox (f := Mailbox.abandon) (fun _ _ => rfl) fun hr => absurd hr Bool.false_ne_true

end Hub

def Place.number : Place → Nat
  | stream i | greeting i | task i => i

def Pair.charge (p : Pair) : Charge := ⟨p.connection, p.claims, p.writer.outcome.isLive⟩

def Task.charge : Task → Charge
  | .paired p => p.charge
  | t => ⟨t.connection, false, false⟩

namespace Session

variable {s s' : Session}

def charge (s : Session) : Place → Option Charge
  | .stream i => (s.streams.get? i).map fun x => ⟨x.connection, true, true⟩
  | .greeting i => (s.greetings.get? i).map fun g => ⟨g.connection, true, true⟩
  | .task i => (s.tasks.get? i).map Task.charge

/-- What holds of every session behind the router. -/
structure Sound (s : Session) : Prop where
  main : s.main = true
  undoomed : s.doomed = []
  running : s.hub.running = true
  orderly : s.hub.Orderly
  numbered : ∀ place, s.next ≤ place.number → s.charge place = none
  pairs : ∀ i t, s.tasks.get? i = some t → ∃ p, t = .paired p ∧ p.Sound
  balanced : Balanced s.charge (fun c => (s.hub.prospect c).isSome) s.hub.listens
    s.hub.nextConnection

theorem sound_start (capacity : Nat) (hpos : 0 < capacity) : (start capacity hpos).Sound where
  main := rfl
  undoomed := rfl
  running := rfl
  orderly := Hub.orderly_start capacity hpos
  numbered place _ := by cases place <;> rfl
  pairs i t h := by cases h
  balanced := by
    have hcharge : (start capacity hpos).charge = fun _ => none := by
      funext place
      cases place <;> rfl
    rw [hcharge]
    exact Balanced.empty _ _

/-- Nothing but the hub and the line is concerned. -/
theorem Sound.continue_ (h : s.Sound) (s' : Session) (hc : s.hub.Continues s'.hub)
    (hmain : s'.main = s.main) (hdoomed : s'.doomed = s.doomed) (hnext : s'.next = s.next)
    (hcharge : s'.charge = s.charge) (htasks : s'.tasks = s.tasks) : s'.Sound where
  main := hmain.trans h.main
  undoomed := hdoomed.trans h.undoomed
  running := hc.running
  orderly := hc.orderly
  numbered place hp := by
    rw [hcharge]
    exact h.numbered place (hnext ▸ hp)
  pairs i t ht := h.pairs i t (htasks ▸ ht)
  balanced := by
    rw [hcharge, hc.next]
    exact h.balanced.of_eq hc.expected hc.listens (Nat.le_refl _)

theorem Sound.onHub (h : s.Sound) {f : Hub → Hub} (hc : s.hub.Continues (f s.hub)) :
    (s.onHub f).Sound :=
  h.continue_ (s.onHub f) hc rfl rfl rfl (by funext place; cases place <;> rfl) rfl

theorem Sound.lined (h : s.Sound) (due : List Worker) (resting : Bool) :
    (s.lined due resting).Sound :=
  h.continue_ (s.lined due resting) (.refl h.orderly h.running) rfl rfl rfl
    (by funext place; cases place <;> rfl) rfl

theorem Sound.logAll (h : s.Sound) (entries : List Entry) : (s.logAll entries).Sound :=
  h.onHub (Hub.continues_logAll h.orderly h.running entries)

theorem Sound.log (h : s.Sound) (entry : Entry) : (s.log entry).Sound := h.logAll [entry]

/-! ### Places -/

def cutStream (s : Session) (i : Nat) (hub : Hub) : Session :=
  { s with streams := s.streams.erase i, hub }

def cutGreeting (s : Session) (i : Nat) (hub : Hub) : Session :=
  { s with greetings := s.greetings.erase i, hub }

def newStream (s : Session) (x : Stream) (hub : Hub) : Session :=
  { s with streams := s.streams.insert s.next x, hub, next := s.next + 1 }

def newGreeting (s : Session) (g : Greeting) (hub : Hub) : Session :=
  { s with greetings := s.greetings.insert s.next g, hub, next := s.next + 1 }

theorem charge_putTask (i : Nat) (t : Task) (hub : Hub) (links : Table Nat WebSocket.Link) :
    (s.putTask i t hub links).charge = Function.update s.charge (.task i) (some t.charge) := by
  funext place
  cases place with
  | task j => by_cases hj : j = i <;> simp [charge, putTask, hj, Function.update]
  | stream j => simp [charge, putTask, Function.update]
  | greeting j => simp [charge, putTask, Function.update]

theorem charge_cutStream (i : Nat) (hub : Hub) :
    (s.cutStream i hub).charge = Function.update s.charge (.stream i) none := by
  funext place
  cases place with
  | stream j => by_cases hj : j = i <;> simp [charge, cutStream, hj, Function.update]
  | greeting j => simp [charge, cutStream, Function.update]
  | task j => simp [charge, cutStream, Function.update]

theorem charge_cutGreeting (i : Nat) (hub : Hub) :
    (s.cutGreeting i hub).charge = Function.update s.charge (.greeting i) none := by
  funext place
  cases place with
  | greeting j => by_cases hj : j = i <;> simp [charge, cutGreeting, hj, Function.update]
  | stream j => simp [charge, cutGreeting, Function.update]
  | task j => simp [charge, cutGreeting, Function.update]

theorem charge_newStream (x : Stream) (hub : Hub) : (s.newStream x hub).charge =
    Function.update s.charge (.stream s.next) (some ⟨x.connection, true, true⟩) := by
  funext place
  cases place with
  | stream j => by_cases hj : j = s.next <;> simp [charge, newStream, hj, Function.update]
  | greeting j => simp [charge, newStream, Function.update]
  | task j => simp [charge, newStream, Function.update]

theorem charge_newGreeting (g : Greeting) (hub : Hub) : (s.newGreeting g hub).charge =
    Function.update s.charge (.greeting s.next) (some ⟨g.connection, true, true⟩) := by
  funext place
  cases place with
  | greeting j => by_cases hj : j = s.next <;> simp [charge, newGreeting, hj, Function.update]
  | stream j => simp [charge, newGreeting, Function.update]
  | task j => simp [charge, newGreeting, Function.update]

theorem charge_task {i : Nat} {p : Pair} (hi : s.tasks.get? i = some (.paired p)) :
    s.charge (.task i) = some p.charge := by
  rw [charge, hi]
  rfl

theorem charge_stream {i : Nat} {x : Stream} (hi : s.streams.get? i = some x) :
    s.charge (.stream i) = some ⟨x.connection, true, true⟩ := by
  rw [charge, hi]
  rfl

theorem charge_greeting {i : Nat} {g : Greeting} (hi : s.greetings.get? i = some g) :
    s.charge (.greeting i) = some ⟨g.connection, true, true⟩ := by
  rw [charge, hi]
  rfl

theorem Sound.pair_sound (h : s.Sound) {i : Nat} {p : Pair}
    (hi : s.tasks.get? i = some (.paired p)) : p.Sound := by
  obtain ⟨p', hp, hsound⟩ := h.pairs i _ hi
  cases hp
  exact hsound

/-- Nobody but the pair itself claims its connection. -/
theorem Sound.claims_pair (h : s.Sound) {i : Nat} {p : Pair}
    (hi : s.tasks.get? i = some (.paired p)) :
    (s.hub.prospect p.connection).isSome = p.claims :=
  h.balanced.claimed _ _ (charge_task hi)

theorem Sound.receives_pair (h : s.Sound) {i : Nat} {p : Pair}
    (hi : s.tasks.get? i = some (.paired p)) (hl : p.writer.outcome.isLive = true) :
    s.hub.listens p.connection = true :=
  h.balanced.received _ _ (charge_task hi) hl

theorem Sound.number_lt (h : s.Sound) {place : Place} {x : Charge}
    (hx : s.charge place = some x) : place.number < s.next := by
  refine Nat.lt_of_not_le fun hle => ?_
  rw [h.numbered place hle] at hx
  cases hx

theorem Sound.numbered_update (h : s.Sound) {place : Place} (hlt : place.number < s'.next)
    (hnext : s.next ≤ s'.next) {y : Option Charge}
    (hcharge : s'.charge = Function.update s.charge place y) (q : Place)
    (hq : s'.next ≤ q.number) : s'.charge q = none := by
  have hne : q ≠ place := by
    rintro rfl
    omega
  rw [hcharge, Function.update_of_ne hne]
  exact h.numbered q (Nat.le_trans hnext hq)

theorem Sound.putTask (h : s.Sound) {i : Nat} {p p' : Pair}
    (hi : s.tasks.get? i = some (.paired p)) (hp : p'.Sound)
    (hc : p'.connection = p.connection) {hub : Hub}
    (ha : s.hub.Amends hub p.connection p'.claims p'.writer.outcome.isLive)
    (links : Table Nat WebSocket.Link) : (s.putTask i (.paired p') hub links).Sound where
  main := h.main
  undoomed := h.undoomed
  running := ha.running
  orderly := ha.orderly
  numbered := h.numbered_update (h.number_lt (charge_task hi)) (Nat.le_refl _)
    (charge_putTask ..)
  pairs j t hj := by
    rw [get?_putTask] at hj
    split at hj
    · exact ⟨p', (Option.some.inj hj).symm, hp⟩
    · exact h.pairs j t hj
  balanced := by
    rw [charge_putTask]
    have hnext : (s.putTask i (.paired p') hub links).hub.nextConnection =
      s.hub.nextConnection := ha.next
    rw [hnext]
    exact h.balanced.amend (charge_task hi) hc ha.claims ha.receives ha.expected ha.listens

theorem Sound.cutStream (h : s.Sound) {i : Nat} {x : Stream} (hi : s.streams.get? i = some x)
    {hub : Hub} {receives : Bool} (ha : s.hub.Amends hub x.connection false receives) :
    (s.cutStream i hub).Sound where
  main := h.main
  undoomed := h.undoomed
  running := ha.running
  orderly := ha.orderly
  numbered := h.numbered_update (h.number_lt (charge_stream hi)) (Nat.le_refl _)
    (charge_cutStream ..)
  pairs := h.pairs
  balanced := by
    rw [charge_cutStream]
    have hnext : (s.cutStream i hub).hub.nextConnection = s.hub.nextConnection := ha.next
    rw [hnext]
    exact h.balanced.close (charge_stream hi) ha.claims ha.expected ha.listens

theorem Sound.cutGreeting (h : s.Sound) {i : Nat} {g : Greeting}
    (hi : s.greetings.get? i = some g) {hub : Hub} {receives : Bool}
    (ha : s.hub.Amends hub g.connection false receives) : (s.cutGreeting i hub).Sound where
  main := h.main
  undoomed := h.undoomed
  running := ha.running
  orderly := ha.orderly
  numbered := h.numbered_update (h.number_lt (charge_greeting hi)) (Nat.le_refl _)
    (charge_cutGreeting ..)
  pairs := h.pairs
  balanced := by
    rw [charge_cutGreeting]
    have hnext : (s.cutGreeting i hub).hub.nextConnection = s.hub.nextConnection := ha.next
    rw [hnext]
    exact h.balanced.close (charge_greeting hi) ha.claims ha.expected ha.listens

/-- What a registration is for the books: a connection that nobody knew is expected. -/
theorem Sound.enter (h : s.Sound) (a : Audience) {place : Place}
    (hplace : s.charge place = none) :
    Balanced
      (Function.update s.charge place (some ⟨⟨s.hub.nextConnection⟩, true, true⟩))
      (fun c => ((s.hub.register a).2.prospect c).isSome) (s.hub.register a).2.listens
      (s.hub.nextConnection + 1) := by
  refine h.balanced.enter hplace rfl ?_ (fun _ => ?_) (fun c hc => ?_) (fun c _ hl => ?_)
  · rw [Hub.prospect_register h.running, if_pos rfl]
    rfl
  · rw [Hub.listens_register h.running, decide_eq_true rfl, Bool.true_or]
  · rw [Hub.prospect_register h.running, if_neg hc]
  · rw [Hub.listens_register h.running, hl, Bool.or_true]

theorem Sound.newStream (h : s.Sound) (a : Audience) {x : Stream}
    (hx : x.connection = ⟨s.hub.nextConnection⟩) :
    (s.newStream x (s.hub.register a).2).Sound where
  main := h.main
  undoomed := h.undoomed
  running := (Hub.submit_running _).trans h.running
  orderly := h.orderly.register a
  numbered := h.numbered_update (Nat.lt_succ_self _) (Nat.le_succ _) (charge_newStream ..)
  pairs := h.pairs
  balanced := by
    rw [charge_newStream, hx]
    have hnext : (s.newStream x (s.hub.register a).2).hub.nextConnection =
      s.hub.nextConnection + 1 := s.hub.nextConnection_register a
    rw [hnext]
    exact h.enter a (h.numbered (.stream s.next) (Nat.le_refl _))

theorem Sound.newGreeting (h : s.Sound) (a : Audience) {g : Greeting}
    (hg : g.connection = ⟨s.hub.nextConnection⟩) :
    (s.newGreeting g (s.hub.register a).2).Sound where
  main := h.main
  undoomed := h.undoomed
  running := (Hub.submit_running _).trans h.running
  orderly := h.orderly.register a
  numbered := h.numbered_update (Nat.lt_succ_self _) (Nat.le_succ _) (charge_newGreeting ..)
  pairs := h.pairs
  balanced := by
    rw [charge_newGreeting, hg]
    have hnext : (s.newGreeting g (s.hub.register a).2).hub.nextConnection =
      s.hub.nextConnection + 1 := s.hub.nextConnection_register a
    rw [hnext]
    exact h.enter a (h.numbered (.greeting s.next) (Nat.le_refl _))

end Session
end LiveUpdate
