import LiveUpdate.Hub
import LiveUpdate.Proofs.RegistryIndex

/-! What one command does to the table and to each mailbox. A message changes only the mailboxes of
those it is offered to, and each of them by one offer. -/
namespace LiveUpdate

namespace Command

/-- What a command does to the table. -/
def enact (r : Registry) : Command → Registry
  | register c a => r.register c a
  | unregister c => (r.unregister c).2
  | _ => r

/-- The audience under which a connection stands after a command, given the one before it. -/
def restate (c : ConnectionId) (before : Option Audience) : Command → Option Audience
  | register c' a => if c = c' then some a else before
  | unregister c' => if c = c' then none else before
  | _ => before

theorem audiences_enact (r : Registry) (c : ConnectionId) (command : Command) :
    (command.enact r).audiences.get? c = command.restate c (r.audiences.get? c) := by
  cases command with
  | register c' a => exact Registry.audiences_register r c' c a
  | unregister c' => exact Registry.audiences_unregister r c' c
  | send m => rfl
  | stats ticket => rfl

theorem indexed_enact {r : Registry} (h : r.Indexed) (command : Command) :
    (command.enact r).Indexed := by
  cases command with
  | register c a => exact h.register c a
  | unregister c => exact h.unregister c
  | send m => exact h
  | stats ticket => exact h

/-- The audience under which a connection stands after some commands: that of its last registration,
unless that was taken back since. -/
def standing (c : ConnectionId) (before : Option Audience) (commands : List Command) :
    Option Audience := commands.foldl (restate c) before

@[simp] theorem standing_nil (c : ConnectionId) (before : Option Audience) :
    standing c before [] = before := rfl

@[simp] theorem standing_cons (c : ConnectionId) (before : Option Audience) (command : Command)
    (rest : List Command) :
    standing c before (command :: rest) = standing c (command.restate c before) rest := rfl

@[simp] theorem standing_append (c : ConnectionId) (before : Option Audience)
    (first rest : List Command) :
    standing c before (first ++ rest) = standing c (standing c before first) rest :=
  List.foldl_append

end Command

namespace Hub

/-! ### Frames -/

theorem deliver_frame (e : Event) (hub : Hub) (c : ConnectionId) :
    ∃ mailboxes delivered dropped journal,
      deliver e hub c = { hub with mailboxes, delivered, dropped, journal } := by
  unfold deliver
  split
  · split <;> exact ⟨_, _, _, _, rfl⟩
  · exact ⟨_, _, _, _, rfl⟩

theorem foldl_deliver_frame (e : Event) (cs : List ConnectionId) (hub : Hub) :
    ∃ mailboxes delivered dropped journal,
      cs.foldl (deliver e) hub = { hub with mailboxes, delivered, dropped, journal } := by
  induction cs generalizing hub with
  | nil => exact ⟨_, _, _, _, rfl⟩
  | cons c rest ih =>
    obtain ⟨_, _, _, _, h⟩ := deliver_frame e hub c
    obtain ⟨b, d, n, j, h'⟩ := ih (deliver e hub c)
    exact ⟨b, d, n, j, by rw [List.foldl_cons, h', h]⟩

theorem fanOut_frame (hub : Hub) (m : Message) :
    ∃ mailboxes delivered dropped journal,
      hub.fanOut m = { hub with mailboxes, delivered, dropped, journal } :=
  foldl_deliver_frame m.event _ hub

/-- No command has a say in how many connections there will be, or in what else is pending. -/
theorem apply_frame (hub : Hub) (command : Command) :
    ∃ registry mailboxes delivered dropped answers journal,
      hub.apply command =
        { hub with registry, mailboxes, delivered, dropped, answers, journal } := by
  cases command with
  | register c a => exact ⟨_, _, _, _, _, _, rfl⟩
  | unregister c =>
    simp only [apply]
    split <;> exact ⟨_, _, _, _, _, _, rfl⟩
  | send m =>
    obtain ⟨_, _, _, _, h⟩ := hub.fanOut_frame m
    simp only [apply, h]
    exact ⟨_, _, _, _, _, _, rfl⟩
  | stats ticket => exact ⟨_, _, _, _, _, _, rfl⟩

@[simp] theorem apply_pending (hub : Hub) (command : Command) :
    (hub.apply command).pending = hub.pending := by
  obtain ⟨_, _, _, _, _, _, h⟩ := hub.apply_frame command
  rw [h]

@[simp] theorem apply_running (hub : Hub) (command : Command) :
    (hub.apply command).running = hub.running := by
  obtain ⟨_, _, _, _, _, _, h⟩ := hub.apply_frame command
  rw [h]

@[simp] theorem apply_capacity (hub : Hub) (command : Command) :
    (hub.apply command).capacity = hub.capacity := by
  obtain ⟨_, _, _, _, _, _, h⟩ := hub.apply_frame command
  rw [h]

@[simp] theorem apply_nextConnection (hub : Hub) (command : Command) :
    (hub.apply command).nextConnection = hub.nextConnection := by
  obtain ⟨_, _, _, _, _, _, h⟩ := hub.apply_frame command
  rw [h]

theorem apply_registry (hub : Hub) (command : Command) :
    (hub.apply command).registry = command.enact hub.registry := by
  cases command with
  | register c a => rfl
  | unregister c =>
    cases h : hub.registry.audiences.get? c with
    | none => simp [apply, Command.enact, Registry.unregister_none h, log]
    | some a => simp [apply, Command.enact, Registry.unregister_some h, log]
  | send m =>
    obtain ⟨_, _, _, _, h⟩ := hub.fanOut_frame m
    simp [apply, Command.enact, h, log]
  | stats ticket => rfl

/-! ### Mailboxes -/

theorem offer_of_not_delivered {capacity : Nat} {e : Event} {box : Mailbox}
    (h : (box.offer capacity e).1 ≠ .delivered) : (box.offer capacity e).2 = box := by
  unfold Mailbox.offer at h ⊢
  grind

/-- An offer to one connection changes its mailbox alone. -/
theorem mailbox?_deliver (e : Event) (hub : Hub) (c c' : ConnectionId) :
    (deliver e hub c).mailbox? c' =
      if c' = c ∧ (hub.registry.audiences.get? c).isSome then
        (hub.mailbox? c').map fun box => (box.offer hub.capacity e).2
      else hub.mailbox? c' := by
  unfold deliver
  split
  · rename_i a box ha hbox
    have hkeep (hd : (box.offer hub.capacity e).1 ≠ .delivered) : hub.mailbox? c' =
        if c' = c ∧ (some a).isSome then
          (hub.mailbox? c').map fun box => (box.offer hub.capacity e).2
        else hub.mailbox? c' := by
      split
      · rename_i hc
        rw [mailbox?, hc.1, hbox, Option.map_some, offer_of_not_delivered hd]
      · rfl
    rw [ha]
    split
    · rename_i box' ho
      simp only [mailbox?, Table.get?_insert, Option.isSome_some, and_true]
      split
      · rename_i hc
        rw [hc, hbox, Option.map_some, ho]
      · rfl
    · rename_i ho
      exact hkeep (by simp [ho])
    · rename_i ho
      exact hkeep (by simp [ho])
  · rename_i hno
    split
    · rename_i hc
      obtain ⟨a, ha⟩ := Option.isSome_iff_exists.mp hc.2
      have hbox : hub.mailbox? c' = none := by
        rw [hc.1]
        exact Option.eq_none_iff_forall_ne_some.mpr fun box hbox => hno a box ha hbox
      rw [hbox]
      rfl
    · rfl

theorem mailbox?_foldl_deliver (e : Event) {cs : List ConnectionId} (hub : Hub) (hd : cs.Nodup)
    (hr : ∀ c ∈ cs, (hub.registry.audiences.get? c).isSome) (c' : ConnectionId) :
    (cs.foldl (deliver e) hub).mailbox? c' =
      if c' ∈ cs then (hub.mailbox? c').map fun box => (box.offer hub.capacity e).2
      else hub.mailbox? c' := by
  induction cs generalizing hub with
  | nil => simp
  | cons c rest ih =>
    obtain ⟨_, _, _, _, hf⟩ := deliver_frame e hub c
    have hbox := mailbox?_deliver e hub c c'
    rw [List.nodup_cons] at hd
    rw [List.foldl_cons, ih _ hd.2 (fun x hx => by rw [hf]; exact hr x (by simp [hx])), hbox]
    have hcap : (deliver e hub c).capacity = hub.capacity := by rw [hf]
    have hreg := hr c (by simp)
    by_cases hc : c' = c
    · subst hc
      simp [hd.1, hreg]
    · simp [hc, hcap]

/-- A message is offered once to every registered connection that it covers, and to no other. -/
theorem mailbox?_fanOut (hub : Hub) (h : hub.registry.Indexed) (m : Message) (c : ConnectionId) :
    (hub.fanOut m).mailbox? c =
      if (hub.registry.audiences.get? c).any m.scope.covers then
        (hub.mailbox? c).map fun box => (box.offer hub.capacity m.event).2
      else hub.mailbox? c := by
  have hm := h.mem_recipients m.scope
  rw [fanOut, mailbox?_foldl_deliver _ _ (h.nodup_recipients _)]
  · have hiff : c ∈ hub.registry.recipients m.scope ↔
        (hub.registry.audiences.get? c).any m.scope.covers = true := by
      rw [hm, Option.any_eq_true]
    simp only [hiff]
  · intro x hx
    obtain ⟨a, ha, -⟩ := (hm x).mp hx
    simp [ha]

/-- What a command does to the mailbox of a connection. -/
theorem mailbox?_apply (hub : Hub) (h : hub.registry.Indexed) (command : Command)
    (c : ConnectionId) : (hub.apply command).mailbox? c =
      match command with
      | .unregister c' =>
        if c = c' ∧ (hub.registry.audiences.get? c).isSome then
          (hub.mailbox? c).map Mailbox.detach
        else hub.mailbox? c
      | .send m =>
        if (hub.registry.audiences.get? c).any m.scope.covers then
          (hub.mailbox? c).map fun box => (box.offer hub.capacity m.event).2
        else hub.mailbox? c
      | _ => hub.mailbox? c := by
  cases command with
  | register c' a => rfl
  | unregister c' =>
    cases hc : hub.registry.audiences.get? c' with
    | none =>
      simp only [apply, Registry.unregister_none hc]
      split
      · rename_i hcc
        rw [hcc.1, hc] at hcc
        simp at hcc
      · rfl
    | some a =>
      simp only [apply, Registry.unregister_some hc, mailbox?, log, Table.get?_modify]
      by_cases hcc : c = c'
      · subst hcc
        simp [hc]
      · simp [hcc]
  | send m => exact mailbox?_fanOut hub h m c
  | stats ticket => rfl

end Hub
end LiveUpdate
