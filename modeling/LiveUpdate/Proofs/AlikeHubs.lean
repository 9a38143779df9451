import LiveUpdate.Proofs.Account
import LiveUpdate.Proofs.Courses

/-! Two hubs that nobody can tell apart. A message may name the audiences that it is for in any
order, and any of them twice: the mailboxes and the figures come out the same, now and whatever
happens later. -/
namespace LiveUpdate

/-- Commands that come to the same: of messages, only the event and who is meant count. -/
def Command.Alike : Command → Command → Prop
  | send m, send m' => m.event = m'.event ∧ ∀ a, m.scope.covers a = m'.scope.covers a
  | command, command' => command = command'

theorem Command.Alike.refl (command : Command) : command.Alike command := by
  cases command with
  | send m => exact ⟨rfl, fun _ => rfl⟩
  | _ => rfl

theorem Command.alike_refl (commands : List Command) : List.Forall₂ Alike commands commands :=
  List.forall₂_same.mpr fun command _ => .refl command

namespace Hub

/-- Hubs that differ at most in their journals and in how pending messages name their audiences. -/
structure Alike (hub hub' : Hub) : Prop where
  frame : ∃ pending mailboxes journal, hub' = { hub with pending, mailboxes, journal }
  mailbox : ∀ c, hub'.mailbox? c = hub.mailbox? c
  pending : List.Forall₂ Command.Alike hub.pending hub'.pending

variable {hub hub' : Hub} {c : ConnectionId}

theorem Alike.stats (h : hub.Alike hub') : hub'.stats = hub.stats := by
  obtain ⟨_, _, _, rfl⟩ := h.frame
  rfl

theorem Alike.answers (h : hub.Alike hub') : hub'.answers = hub.answers := by
  obtain ⟨_, _, _, rfl⟩ := h.frame
  rfl

theorem Alike.capacity (h : hub.Alike hub') : hub'.capacity = hub.capacity := by
  obtain ⟨_, _, _, rfl⟩ := h.frame
  rfl

theorem Alike.registry (h : hub.Alike hub') : hub'.registry = hub.registry := by
  obtain ⟨_, _, _, rfl⟩ := h.frame
  rfl

theorem Alike.logAll (h : hub.Alike hub') (entries entries' : List Entry) :
    (hub.logAll entries).Alike (hub'.logAll entries') := by
  obtain ⟨⟨_, _, _, rfl⟩, hmailbox, hpending⟩ := h
  exact ⟨⟨_, _, _, rfl⟩, hmailbox, hpending⟩

theorem Alike.submit (h : hub.Alike hub') {command command' : Command}
    (hc : command.Alike command') : (hub.submit command).Alike (hub'.submit command') := by
  obtain ⟨⟨_, _, _, rfl⟩, hmailbox, hpending⟩ := h
  by_cases hr : hub.running
  · simp only [Hub.submit, hr, if_true]
    exact ⟨⟨_, _, _, rfl⟩, hmailbox, List.rel_append hpending (.cons hc .nil)⟩
  · simp only [Hub.submit, hr, Bool.false_eq_true, if_false, log]
    exact ⟨⟨_, _, _, rfl⟩, hmailbox, hpending⟩

/-- The same is written into the same mailbox of both. -/
theorem Alike.updateMailbox (h : hub.Alike hub') (c : ConnectionId) (f : Mailbox → Mailbox) :
    (hub.updateMailbox c f).Alike (hub'.updateMailbox c f) := by
  obtain ⟨⟨_, mailboxes, _, rfl⟩, hmailbox, hpending⟩ := h
  refine ⟨⟨_, _, _, rfl⟩, fun c' => ?_, hpending⟩
  have hbox : mailboxes.get? c' = hub.mailboxes.get? c' := hmailbox c'
  simp only [mailbox?, Hub.updateMailbox, Table.get?_modify, hbox]

/-! ### The loop -/

/-- The same connections are offered a message, whatever order they are in. -/
theorem recipients_perm {r : Registry} (hi : r.Indexed) {scope scope' : Scope}
    (h : ∀ a, scope.covers a = scope'.covers a) :
    (r.recipients scope).Perm (r.recipients scope') := by
  refine (List.perm_ext_iff_of_nodup (hi.nodup_recipients scope) (hi.nodup_recipients scope')).mpr
    fun c => ?_
  simp only [hi.mem_recipients, h]

theorem Alike.countOutcome (h : hub.Alike hub') (e : Event) (d : Delivery)
    {cs cs' : List ConnectionId} (hcs : cs.Perm cs') :
    hub'.countOutcome e d cs' = hub.countOutcome e d cs := by
  simp only [Hub.countOutcome, h.mailbox, h.capacity]
  exact (hcs.countP_eq _).symm

/-- The table is in order, and whoever is registered has a mailbox. -/
structure Housed (hub : Hub) : Prop where
  indexed : hub.registry.Indexed
  mailbox : ∀ c, (hub.registry.audiences.get? c).isSome → (hub.mailbox? c).isSome

theorem Orderly.housed (h : hub.Orderly) : hub.Housed := ⟨h.indexed, h.isSome_mailbox?⟩

theorem Housed.popped (h : hub.Housed) (rest : List Command) : (hub.popped rest).Housed :=
  ⟨h.indexed, h.mailbox⟩

/-- What a message does to the figures. -/
theorem Housed.send_counts (h : hub.Housed) (m : Message) :
    (hub.fanOut m).delivered = hub.delivered +
        hub.countOutcome m.event .delivered (hub.registry.recipients m.scope) ∧
      (hub.fanOut m).dropped = hub.dropped +
        hub.countOutcome m.event .dropped (hub.registry.recipients m.scope) := by
  refine foldl_deliver_counts m.event (h.indexed.nodup_recipients m.scope) fun c hc => ?_
  obtain ⟨a, ha, -⟩ := (h.indexed.mem_recipients m.scope c).mp hc
  have hreg : (hub.registry.audiences.get? c).isSome = true := by rw [ha]; rfl
  exact ⟨hreg, h.mailbox c hreg⟩

/-- One message, offered to the same connections in any order. -/
theorem Alike.send (h : hub.Alike hub') (ho : hub.Housed) (ho' : hub'.Housed) {m m' : Message}
    (hevent : m.event = m'.event) (hcovers : ∀ a, m.scope.covers a = m'.scope.covers a) :
    (hub.apply (.send m)).Alike (hub'.apply (.send m')) := by
  have hcount (d : Delivery) : hub'.countOutcome m'.event d (hub'.registry.recipients m'.scope) =
      hub.countOutcome m.event d (hub.registry.recipients m.scope) := by
    rw [h.registry, ← hevent]
    exact h.countOutcome m.event d (recipients_perm ho.indexed hcovers)
  have hbase : hub'.delivered = hub.delivered ∧ hub'.dropped = hub.dropped := by
    obtain ⟨_, _, _, rfl⟩ := h.frame
    exact ⟨rfl, rfl⟩
  have hdelivered : (hub'.fanOut m').delivered = (hub.fanOut m).delivered := by
    rw [(ho'.send_counts m').1, (ho.send_counts m).1, hcount, hbase.1]
  have hdropped : (hub'.fanOut m').dropped = (hub.fanOut m).dropped := by
    rw [(ho'.send_counts m').2, (ho.send_counts m).2, hcount, hbase.2]
  refine ⟨?_, fun c => ?_, ?_⟩
  · obtain ⟨_, _, _, _, hfan⟩ := hub.fanOut_frame m
    obtain ⟨_, _, _, _, hfan'⟩ := hub'.fanOut_frame m'
    obtain ⟨_, _, _, rfl⟩ := h.frame
    rw [hfan, hfan'] at hdelivered hdropped
    simp only at hdelivered hdropped
    simp only [Hub.apply, log, hfan, hfan', hdelivered, hdropped]
    exact ⟨_, _, _, rfl⟩
  · rw [mailbox?_apply hub ho.indexed, mailbox?_apply hub' ho'.indexed]
    have hany : (hub.registry.audiences.get? c).any m'.scope.covers =
        (hub.registry.audiences.get? c).any m.scope.covers := by
      cases hub.registry.audiences.get? c with
      | none => rfl
      | some a => exact (hcovers a).symm
    simp only [h.registry, h.capacity, h.mailbox, hany, hevent]
  · rw [apply_pending, apply_pending]
    exact h.pending

theorem Alike.apply (h : hub.Alike hub') (ho : hub.Housed) (ho' : hub'.Housed)
    {command command' : Command} (hc : command.Alike command') :
    (hub.apply command).Alike (hub'.apply command') := by
  cases command with
  | send m =>
    cases command' with
    | send m' => exact h.send ho ho' hc.1 hc.2
    | _ => cases hc
  | register c a =>
    cases hc
    obtain ⟨⟨_, _, _, rfl⟩, hmailbox, hpending⟩ := h
    exact ⟨⟨_, _, _, rfl⟩, hmailbox, hpending⟩
  | unregister c =>
    cases hc
    have hdetached := h.updateMailbox c Mailbox.detach
    cases ha : hub.registry.audiences.get? c with
    | none =>
      obtain ⟨⟨_, _, _, rfl⟩, hmailbox, hpending⟩ := h
      simp only [Hub.apply, Registry.unregister_none ha]
      exact ⟨⟨_, _, _, rfl⟩, hmailbox, hpending⟩
    | some a =>
      obtain ⟨⟨_, _, _, rfl⟩, hmailbox, hpending⟩ := h
      simp only [Hub.apply, Registry.unregister_some ha]
      exact ⟨⟨_, _, _, rfl⟩, hdetached.mailbox, hpending⟩
  | stats ticket =>
    cases hc
    obtain ⟨⟨_, _, _, rfl⟩, hmailbox, hpending⟩ := h
    exact ⟨⟨_, _, _, rfl⟩, hmailbox, hpending⟩

theorem Alike.step (h : hub.Alike hub') (ho : hub.Orderly) (ho' : hub'.Orderly) :
    hub.step.Alike hub'.step := by
  have hpending := h.pending
  cases hp : hub.pending with
  | nil =>
    rw [hp, List.forall₂_nil_left_iff] at hpending
    rwa [step_nil hp, step_nil hpending]
  | cons command rest =>
    rw [hp] at hpending
    obtain ⟨command', rest', hc, hrest, hp'⟩ := List.forall₂_cons_left_iff.mp hpending
    rw [step_cons hp, step_cons hp']
    have hpopped : (hub.popped rest).Alike (hub'.popped rest') := by
      obtain ⟨⟨_, _, _, rfl⟩, hmailbox, -⟩ := h
      exact ⟨⟨_, _, _, rfl⟩, hmailbox, hrest⟩
    exact hpopped.apply (ho.housed.popped rest) (ho'.housed.popped rest') hc

/-! ### Whatever happens -/

theorem Alike.opened (h : hub.Alike hub') : hub.opened.Alike hub'.opened := by
  obtain ⟨⟨_, mailboxes, _, rfl⟩, hmailbox, hpending⟩ := h
  refine ⟨⟨_, _, _, rfl⟩, fun c => ?_, hpending⟩
  have hbox : mailboxes.get? c = hub.mailboxes.get? c := hmailbox c
  simp only [mailbox?, Hub.opened, Table.get?_insert, hbox]

theorem Alike.register (h : hub.Alike hub') (a : Audience) :
    (hub.register a).2.Alike (hub'.register a).2 := by
  have hopened := h.opened
  obtain ⟨⟨_, _, _, rfl⟩, -, -⟩ := h
  exact hopened.submit (.refl (.register ⟨hub.nextConnection⟩ a))

theorem Alike.sendTo (h : hub.Alike hub') (audiences : List Audience) (e : Event) :
    (hub.sendTo audiences e).Alike (hub'.sendTo audiences e) := by
  by_cases ha : audiences = []
  · simp only [Hub.sendTo, ha, if_true]
    exact h.logAll [_] [_]
  · simp only [Hub.sendTo, ha, if_false]
    exact h.submit (.refl _)

theorem Alike.askStats (h : hub.Alike hub') : hub.askStats.2.Alike hub'.askStats.2 := by
  obtain ⟨⟨pending, mailboxes, journal, rfl⟩, hmailbox, hpending⟩ := h
  let asked : Hub := { hub with nextTicket := hub.nextTicket + 1 }
  have hasked : asked.Alike { asked with pending, mailboxes, journal } :=
    ⟨⟨_, _, _, rfl⟩, hmailbox, hpending⟩
  exact hasked.submit (.refl _)

theorem Alike.halt (h : hub.Alike hub') : hub.halt.Alike hub'.halt := by
  obtain ⟨⟨_, mailboxes, _, rfl⟩, hmailbox, -⟩ := h
  refine ⟨⟨_, _, _, rfl⟩, fun c => ?_, .nil⟩
  have hbox : mailboxes.get? c = hub.mailboxes.get? c := hmailbox c
  simp only [mailbox?, Hub.halt, Table.get?_mapValues, hbox]

theorem Alike.perform (h : hub.Alike hub') (ho : hub.Orderly) (ho' : hub'.Orderly) (act : Act) :
    (hub.perform act).Alike (hub'.perform act) := by
  cases act with
  | register a => exact h.register a
  | unregister c => exact h.submit (.refl _)
  | send m => exact h.submit (.refl _)
  | sendTo audiences e => exact h.sendTo audiences e
  | sendToStudents students e => exact h.sendTo _ e
  | askStats => exact h.askStats
  | step => exact h.step ho ho'
  | take c => exact h.updateMailbox c _
  | refuseMore c => exact h.updateMailbox c _
  | abandon c => exact h.updateMailbox c _

/-- The same happens to both. -/
theorem Alike.happen (h : hub.Alike hub') (ho : hub.Orderly) (ho' : hub'.Orderly) (x : Happening) :
    (hub.happen x).Alike (hub'.happen x) := by
  cases x with
  | act act => exact h.perform ho ho' act
  | noted entries => exact h.logAll entries entries
  | stopped => exact (h.logAll [_] [_]).halt
  | numbered | fetched =>
    obtain ⟨⟨_, _, _, rfl⟩, hmailbox, hpending⟩ := h
    exact ⟨⟨_, _, _, rfl⟩, hmailbox, hpending⟩

theorem Alike.undergo (h : hub.Alike hub') (ho : hub.Orderly) (ho' : hub'.Orderly)
    (course : List Happening) : (hub.undergo course).Alike (hub'.undergo course) := by
  induction course generalizing hub hub' with
  | nil => exact h
  | cons x rest ih => exact ih (h.happen ho ho' x) (ho.happen x) (ho'.happen x)

end Hub
end LiveUpdate
