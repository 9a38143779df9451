import LiveUpdate.Proofs.HubRuns

/-! An account of the hub that is kept without a queue: it follows the commands in the order in
which they are applied and what the receivers do in between, and nothing else. The hub agrees with
the account of its own history, whenever its loop got to run. -/
namespace LiveUpdate

/-- What the commands and the receivers have made of the table, the mailboxes and the counters.
Every connection has its mailbox from the outset. -/
structure Account where
  registry : Registry
  boxes : ConnectionId → Mailbox
  delivered : Nat
  dropped : Nat

namespace Account

open Hub

def blank : Account := ⟨.empty, fun _ => .fresh, 0, 0⟩

def figures (account : Account) : Stats where
  connections := account.registry.connectionCount
  students := account.registry.studentCount
  unfiltered := account.registry.unfilteredCount
  delivered := account.delivered
  dropped := account.dropped

def outcome (capacity : Nat) (account : Account) (m : Message) (c : ConnectionId) : Delivery :=
  ((account.boxes c).offer capacity m.event).1

/-- At how many of its recipients a message meets with an outcome. -/
def tally (capacity : Nat) (account : Account) (m : Message) (d : Delivery) : Nat :=
  (account.registry.recipients m.scope).countP fun c => account.outcome capacity m c = d

def updateBox (account : Account) (c : ConnectionId) (f : Mailbox → Mailbox) : Account :=
  { account with boxes := fun c' => if c' = c then f (account.boxes c') else account.boxes c' }

def apply (capacity : Nat) (account : Account) : Command → Account
  | .register c a => { account with registry := account.registry.register c a }
  | .unregister c =>
    if (account.registry.audiences.get? c).isSome then
      { account.updateBox c .detach with registry := (account.registry.unregister c).2 }
    else account
  | .send m =>
    { account with
      boxes := fun c =>
        if c ∈ account.registry.recipients m.scope then
          ((account.boxes c).offer capacity m.event).2
        else account.boxes c
      delivered := account.delivered + account.tally capacity m .delivered
      dropped := account.dropped + account.tally capacity m .dropped }
  | .stats _ => account

def note (capacity : Nat) (account : Account) : Moment → Account
  | .applied command => account.apply capacity command
  | .taken c => account.updateBox c fun box => box.take.2
  | .refused c => account.updateBox c .refuseMore
  | .abandoned c => account.updateBox c .abandon

/-- The account after a history. -/
def follow (capacity : Nat) (account : Account) (moments : List Moment) : Account :=
  moments.foldl (note capacity) account

theorem follow_append (capacity : Nat) (account : Account) (first rest : List Moment) :
    account.follow capacity (first ++ rest) =
      (account.follow capacity first).follow capacity rest := List.foldl_append

end Account

namespace Hub

variable {hub : Hub} {account : Account}

/-- Who does something to a mailbox, where it is not the loop. -/
def Moment.receiver? : Moment → Option ConnectionId
  | applied _ => none
  | taken c | refused c | abandoned c => some c

/-- What an act is for the account: a receiver is there only when its mailbox is. -/
def occurrence? (hub : Hub) (act : Act) : Option Moment :=
  (hub.moment? act).filter fun moment =>
    moment.receiver?.all fun c => (hub.mailbox? c).isSome

/-- What is applied in a run and what its receivers do, in order. -/
def course (hub : Hub) (acts : List Act) : List Moment :=
  gather (fun hub act => (hub.occurrence? act).toList) hub acts

theorem course_cons (act : Act) (rest : List Act) :
    hub.course (act :: rest) = (hub.occurrence? act).toList ++ (hub.perform act).course rest := rfl

theorem gather_append {α : Type} (f : Hub → Act → List α) (hub : Hub) (first rest : List Act) :
    gather f hub (first ++ rest) = gather f hub first ++ gather f (hub.run first) rest := by
  induction first generalizing hub with
  | nil => rfl
  | cons act first ih =>
    rw [List.cons_append, gather, gather, ih, List.append_assoc]
    rfl

theorem commands_occurrence? (act : Act) :
    (hub.occurrence? act).toList.filterMap Moment.command? =
      (hub.moment? act).toList.filterMap Moment.command? := by
  rw [occurrence?]
  cases hm : hub.moment? act with
  | none => rfl
  | some moment =>
    cases moment with
    | applied command => rfl
    | taken c | refused c | abandoned c =>
      rw [Option.filter_some]
      split <;> rfl

/-- The commands of a course are those that were submitted, up to what is still pending. -/
theorem commands_course (hr : hub.running = true) (acts : List Act) :
    hub.pending ++ hub.submissions acts =
      (hub.course acts).filterMap Moment.command? ++ (hub.run acts).pending := by
  rw [applied_append_pending hr]
  congr 1
  induction acts generalizing hub with
  | nil => rfl
  | cons act rest ih =>
    have hrest := @ih (hub.perform act) ((perform_running act).trans hr)
    simp only [history, course, gather, List.filterMap_append] at hrest ⊢
    rw [hrest, commands_occurrence?]

/-! ### One message -/

/-- Whoever is registered has a mailbox. -/
theorem Orderly.isSome_mailbox? (h : hub.Orderly) (c : ConnectionId)
    (hc : (hub.registry.audiences.get? c).isSome) : (hub.mailbox? c).isSome := by
  have hkeeps := (h.keeps_iff c).mpr (Or.inr hc)
  rw [keeps?, Option.map_eq_some_iff] at hkeeps
  obtain ⟨box, hbox, -⟩ := hkeeps
  rw [hbox]
  rfl

theorem mailbox?_deliver_of_ne (e : Event) {c c' : ConnectionId} (hne : c' ≠ c) :
    (deliver e hub c).mailbox? c' = hub.mailbox? c' := by
  rw [mailbox?_deliver, if_neg fun h => hne h.1]

/-- How many of some connections of the hub meet with an outcome, as things stand. -/
def countOutcome (hub : Hub) (e : Event) (d : Delivery) (cs : List ConnectionId) : Nat :=
  cs.countP fun c => (hub.mailbox? c).map (fun box => (box.offer hub.capacity e).1) = some d

theorem countOutcome_deliver (e : Event) (d : Delivery) {c : ConnectionId}
    {cs : List ConnectionId} (hc : c ∉ cs) :
    (deliver e hub c).countOutcome e d cs = hub.countOutcome e d cs := by
  obtain ⟨_, _, _, _, hf⟩ := deliver_frame e hub c
  have hcap : (deliver e hub c).capacity = hub.capacity := by rw [hf]
  refine List.countP_congr fun c' hc' => ?_
  have hne : c' ≠ c := fun h => hc (h ▸ hc')
  rw [mailbox?_deliver_of_ne e hne, hcap]

theorem deliver_counts (e : Event) {c : ConnectionId}
    (hreg : (hub.registry.audiences.get? c).isSome) (hbox : (hub.mailbox? c).isSome) :
    (deliver e hub c).delivered = hub.delivered + hub.countOutcome e .delivered [c] ∧
      (deliver e hub c).dropped = hub.dropped + hub.countOutcome e .dropped [c] := by
  obtain ⟨a, ha⟩ := Option.isSome_iff_exists.mp hreg
  obtain ⟨box, hbox⟩ := Option.isSome_iff_exists.mp hbox
  have hget : hub.mailboxes.get? c = some box := hbox
  simp only [deliver, ha, hget, countOutcome, hbox, Option.map_some, List.countP_singleton,
    Option.some.injEq]
  split <;> rename_i ho <;> simp [ho, log]

/-- Every recipient counts once, by what its mailbox makes of the event. -/
theorem foldl_deliver_counts (e : Event) {cs : List ConnectionId} (hd : cs.Nodup)
    (hcs : ∀ c ∈ cs, (hub.registry.audiences.get? c).isSome ∧ (hub.mailbox? c).isSome) :
    (cs.foldl (deliver e) hub).delivered = hub.delivered + hub.countOutcome e .delivered cs ∧
      (cs.foldl (deliver e) hub).dropped = hub.dropped + hub.countOutcome e .dropped cs := by
  induction cs generalizing hub with
  | nil => exact ⟨rfl, rfl⟩
  | cons c rest ih =>
    rw [List.nodup_cons] at hd
    have hc := hcs c List.mem_cons_self
    obtain ⟨hdelivered, hdropped⟩ := deliver_counts e hc.1 hc.2
    have hrest : ∀ c' ∈ rest, ((deliver e hub c).registry.audiences.get? c').isSome ∧
        ((deliver e hub c).mailbox? c').isSome := by
      intro c' hc'
      have hne : c' ≠ c := fun h => hd.1 (h ▸ hc')
      obtain ⟨_, _, _, _, hf⟩ := deliver_frame e hub c
      rw [mailbox?_deliver_of_ne e hne, hf]
      exact hcs c' (List.mem_cons_of_mem _ hc')
    have hsplit (d : Delivery) : hub.countOutcome e d (c :: rest) =
        hub.countOutcome e d [c] + hub.countOutcome e d rest := by
      rw [countOutcome, ← List.singleton_append, List.countP_append]
      rfl
    obtain ⟨ihdelivered, ihdropped⟩ := ih hd.2 hrest
    rw [List.foldl_cons, ihdelivered, ihdropped, hdelivered, hdropped,
      countOutcome_deliver e _ hd.1, countOutcome_deliver e _ hd.1, hsplit, hsplit]
    omega

end Hub

/-! ### The account of a run -/

namespace Account

open Hub

/-- The account says of the hub what there is. A mailbox that is not there yet will be a fresh
one. -/
structure Describes (account : Account) (hub : Hub) : Prop where
  registry : hub.registry = account.registry
  boxes : ∀ c, account.boxes c = (hub.mailbox? c).getD .fresh
  delivered : hub.delivered = account.delivered
  dropped : hub.dropped = account.dropped

variable {account : Account} {hub : Hub}

theorem describes_start (capacity : Nat) (hpos : 0 < capacity) :
    blank.Describes (Hub.start capacity hpos) := ⟨rfl, fun _ => rfl, rfl, rfl⟩

theorem Describes.stats (h : account.Describes hub) : hub.stats = account.figures := by
  rw [Hub.stats, figures, h.registry, h.delivered, h.dropped]

theorem Describes.of_eq {hub' : Hub} (h : account.Describes hub)
    (hregistry : hub'.registry = hub.registry)
    (hboxes : ∀ c, (hub'.mailbox? c).getD .fresh = (hub.mailbox? c).getD .fresh)
    (hdelivered : hub'.delivered = hub.delivered) (hdropped : hub'.dropped = hub.dropped) :
    account.Describes hub' where
  registry := hregistry.trans h.registry
  boxes c := (h.boxes c).trans (hboxes c).symm
  delivered := hdelivered.trans h.delivered
  dropped := hdropped.trans h.dropped

theorem Describes.submit (h : account.Describes hub) (command : Command) :
    account.Describes (hub.submit command) := by
  obtain ⟨_, _, hframe⟩ := hub.submit_frame command
  rw [hframe]
  exact ⟨h.registry, h.boxes, h.delivered, h.dropped⟩

theorem Describes.register (h : account.Describes hub) (ho : hub.Orderly)
    (hr : hub.running = true) (a : Audience) : account.Describes (hub.register a).2 := by
  rw [register_eq]
  refine Describes.submit ?_ _
  refine h.of_eq rfl (fun c => ?_) rfl rfl
  have hbox : hub.opened.mailbox? c =
      if c = ⟨hub.nextConnection⟩ then some .fresh else hub.mailbox? c := by
    simp only [opened, mailbox?, Table.get?_insert, hr, if_true]
  have hnone : hub.mailbox? ⟨hub.nextConnection⟩ = none := Option.map_eq_none_iff.mp ho.next_unknown
  rw [hbox]
  split
  · rename_i hc
    rw [hc, hnone]
    rfl
  · rfl

/-- A receiver's deed at a mailbox that is there is noted; at any other it is none. -/
theorem Describes.updateMailbox (h : account.Describes hub) (c : ConnectionId)
    (f : Mailbox → Mailbox) :
    (if (hub.mailbox? c).isSome then account.updateBox c f else account).Describes
      (hub.updateMailbox c f) := by
  have hbox (c' : ConnectionId) : (hub.updateMailbox c f).mailbox? c' =
      if c' = c then (hub.mailbox? c').map f else hub.mailbox? c' := Table.get?_modify ..
  cases hc : hub.mailbox? c with
  | none =>
    refine h.of_eq rfl (fun c' => ?_) rfl rfl
    rw [hbox]
    split
    · rename_i hcc
      rw [hcc, hc]
      rfl
    · rfl
  | some box =>
    refine ⟨h.registry, fun c' => ?_, h.delivered, h.dropped⟩
    have hold := h.boxes c'
    rw [hbox]
    simp only [Option.isSome_some, if_true, updateBox]
    split
    · rename_i hcc
      rw [hold, hcc, hc]
      rfl
    · exact hold

theorem Describes.mem_recipients (h : account.Describes hub) (hi : hub.registry.Indexed)
    (scope : Scope) (c : ConnectionId) : c ∈ account.registry.recipients scope ↔
      (hub.registry.audiences.get? c).any scope.covers = true := by
  rw [← h.registry, hi.mem_recipients, Option.any_eq_true]

theorem Describes.countOutcome (h : account.Describes hub)
    (hthere : ∀ c, (hub.registry.audiences.get? c).isSome → (hub.mailbox? c).isSome)
    (hi : hub.registry.Indexed) (m : Message) (d : Delivery) :
    hub.countOutcome m.event d (hub.registry.recipients m.scope) =
      account.tally hub.capacity m d := by
  rw [Hub.countOutcome, tally, ← h.registry]
  refine List.countP_congr fun c hc => ?_
  obtain ⟨a, ha, -⟩ := (hi.mem_recipients m.scope c).mp hc
  obtain ⟨box, hbox⟩ := Option.isSome_iff_exists.mp (hthere c (by rw [ha]; rfl))
  rw [outcome, h.boxes c, hbox]
  simp

theorem Describes.send (h : account.Describes hub) (hi : hub.registry.Indexed)
    (hthere : ∀ c, (hub.registry.audiences.get? c).isSome → (hub.mailbox? c).isSome)
    (m : Message) :
    (account.apply hub.capacity (.send m)).Describes (hub.apply (.send m)) := by
  have hcs : ∀ c ∈ hub.registry.recipients m.scope,
      (hub.registry.audiences.get? c).isSome ∧ (hub.mailbox? c).isSome := by
    intro c hc
    obtain ⟨a, ha, -⟩ := (hi.mem_recipients m.scope c).mp hc
    have hreg : (hub.registry.audiences.get? c).isSome = true := by rw [ha]; rfl
    exact ⟨hreg, hthere c hreg⟩
  obtain ⟨hdelivered, hdropped⟩ :=
    foldl_deliver_counts m.event (hi.nodup_recipients m.scope) hcs
  rw [h.countOutcome hthere hi] at hdelivered hdropped
  refine ⟨(apply_registry hub _).trans h.registry, fun c => ?_, ?_, ?_⟩
  · rw [mailbox?_apply hub hi]
    simp only [apply, h.mem_recipients hi, h.boxes c]
    split
    · rename_i hcover
      obtain ⟨a, ha, -⟩ := (Option.any_eq_true _ _).mp hcover
      obtain ⟨box, hbox⟩ := Option.isSome_iff_exists.mp (hthere c (by rw [ha]; rfl))
      rw [hbox]
      rfl
    · rfl
  · exact hdelivered.trans (by rw [h.delivered]; rfl)
  · exact hdropped.trans (by rw [h.dropped]; rfl)

theorem Describes.unregister (h : account.Describes hub) (c : ConnectionId)
    (hi : hub.registry.Indexed)
    (hthere : ∀ c, (hub.registry.audiences.get? c).isSome → (hub.mailbox? c).isSome) :
    (account.apply hub.capacity (.unregister c)).Describes (hub.apply (.unregister c)) := by
  have hbox (c' : ConnectionId) := mailbox?_apply hub hi (.unregister c) c'
  simp only [apply, ← h.registry]
  cases hc : hub.registry.audiences.get? c with
  | none =>
    have happly : hub.apply (.unregister c) = hub.log (.alreadyUnregistered c) := by
      simp only [Hub.apply, Registry.unregister_none hc]
    rw [happly]
    exact h.of_eq rfl (fun _ => rfl) rfl rfl
  | some a =>
    have hsome : (hub.registry.audiences.get? c).isSome = true := by rw [hc]; rfl
    refine ⟨apply_registry hub _, fun c' => ?_, ?_, ?_⟩
    · simp only [Option.isSome_some, if_true, updateBox, hbox c', h.boxes c']
      by_cases hcc : c' = c
      · subst hcc
        obtain ⟨box, hb⟩ := Option.isSome_iff_exists.mp (hthere c' hsome)
        simp [hsome, hb]
      · simp [hcc]
    · simp only [Hub.apply, Registry.unregister_some hc]
      exact h.delivered
    · simp only [Hub.apply, Registry.unregister_some hc]
      exact h.dropped

/-- The loop applies a command: the account notes it. -/
theorem Describes.apply (h : account.Describes hub) (hi : hub.registry.Indexed)
    (hthere : ∀ c, (hub.registry.audiences.get? c).isSome → (hub.mailbox? c).isSome)
    (command : Command) :
    (account.apply hub.capacity command).Describes (hub.apply command) := by
  cases command with
  | register c a =>
    exact ⟨congrArg (Registry.register · c a) h.registry, h.boxes, h.delivered, h.dropped⟩
  | unregister c => exact h.unregister c hi hthere
  | send m => exact h.send hi hthere m
  | stats ticket => exact ⟨h.registry, h.boxes, h.delivered, h.dropped⟩

/-- Whatever happens to the hub, the account that notes it still describes the hub. -/
theorem Describes.perform (h : account.Describes hub) (ho : hub.Orderly)
    (hr : hub.running = true) (act : Act) :
    (account.follow hub.capacity (hub.occurrence? act).toList).Describes (hub.perform act) := by
  have hdeed (c : ConnectionId) (f : Mailbox → Mailbox) (moment : Moment)
      (hmoment : moment.receiver? = some c)
      (hnote : account.note hub.capacity moment = account.updateBox c f) :
      (account.follow hub.capacity ((some moment).filter fun moment =>
        moment.receiver?.all fun c => (hub.mailbox? c).isSome).toList).Describes
          (hub.updateMailbox c f) := by
    have hupdate := h.updateMailbox c f
    rw [Option.filter_some, hmoment]
    cases hc : (hub.mailbox? c).isSome with
    | false => simpa [hc, follow] using hupdate
    | true => simpa [hc, follow, hnote] using hupdate
  have hsendTo (audiences : List Audience) (e : Event) :
      account.Describes (hub.sendTo audiences e) := by
    rw [Hub.sendTo]
    split
    · exact h.of_eq rfl (fun _ => rfl) rfl rfl
    · exact h.submit _
  cases act with
  | register a => exact h.register ho hr a
  | unregister c => exact h.submit _
  | send m => exact h.submit _
  | sendTo audiences e => exact hsendTo audiences e
  | sendToStudents students e => exact hsendTo _ e
  | askStats =>
    have hasked : account.Describes { hub with nextTicket := hub.nextTicket + 1 } :=
      h.of_eq rfl (fun _ => rfl) rfl rfl
    exact hasked.submit _
  | step =>
    cases hp : hub.pending with
    | nil =>
      rw [Hub.perform, step_nil hp, occurrence?, moment?, hp]
      exact h
    | cons command rest =>
      have hpopped : account.Describes (hub.popped rest) :=
        h.of_eq rfl (fun _ => rfl) rfl rfl
      rw [Hub.perform, step_cons hp, occurrence?, moment?, hp]
      exact hpopped.apply ho.indexed (fun c hc => ho.isSome_mailbox? c hc) command
  | take c => exact hdeed c _ (.taken c) rfl rfl
  | refuseMore c => exact hdeed c _ (.refused c) rfl rfl
  | abandon c => exact hdeed c _ (.abandoned c) rfl rfl

theorem Describes.run (h : account.Describes hub) (ho : hub.Orderly) (hr : hub.running = true)
    (acts : List Act) :
    (account.follow hub.capacity (hub.course acts)).Describes (hub.run acts) := by
  induction acts generalizing hub account with
  | nil => exact h
  | cons act rest ih =>
    have hrest := ih (h.perform ho hr act) (ho.perform act) ((perform_running act).trans hr)
    rw [perform_capacity] at hrest
    rw [course_cons, follow_append]
    exact hrest

end Account
end LiveUpdate
