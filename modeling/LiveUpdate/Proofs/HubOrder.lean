import LiveUpdate.Proofs.FanOut

/-! What holds of the hub whatever is submitted to it: it keeps the sending ends of exactly those
mailboxes whose connections are registered or about to be. -/
namespace LiveUpdate

/-- The connection that a command enters. -/
def Command.entrant? : Command → Option ConnectionId
  | register c _ => some c
  | _ => none

@[simp] theorem Mailbox.offer_attached (capacity : Nat) (e : Event) (box : Mailbox) :
    (box.offer capacity e).2.attached = box.attached := by
  unfold offer
  grind

@[simp] theorem Mailbox.offer_intake (capacity : Nat) (e : Event) (box : Mailbox) :
    (box.offer capacity e).2.intake = box.intake := by
  unfold offer
  grind

@[simp] theorem Mailbox.take_attached (box : Mailbox) :
    box.take.2.attached = box.attached := by
  unfold take
  split <;> rfl

@[simp] theorem Mailbox.refuseMore_attached (box : Mailbox) :
    box.refuseMore.attached = box.attached := by
  unfold refuseMore
  split <;> rfl

namespace Hub

variable {hub : Hub} {c : ConnectionId}

/-- The connections whose registration has been submitted and not yet applied. -/
def awaited (hub : Hub) : List ConnectionId := hub.pending.filterMap Command.entrant?

/-- Whether the hub keeps the sending end of a mailbox; nothing if there is no such mailbox. -/
def keeps? (hub : Hub) (c : ConnectionId) : Option Bool := (hub.mailbox? c).map Mailbox.attached

structure Orderly (hub : Hub) : Prop where
  indexed : hub.registry.Indexed
  keeps_iff : ∀ c, hub.keeps? c = some true ↔
    c ∈ hub.awaited ∨ (hub.registry.audiences.get? c).isSome = true
  awaited_nodup : hub.awaited.Nodup
  awaited_absent : ∀ c ∈ hub.awaited, hub.registry.audiences.get? c = none
  known : ∀ c, (hub.keeps? c).isSome = true → c.number < hub.nextConnection

theorem orderly_start (capacity : Nat) (hpos : 0 < capacity) : (start capacity hpos).Orderly where
  indexed := Registry.indexed_empty
  keeps_iff c := by simp [keeps?, mailbox?, awaited, start]
  awaited_nodup := List.nodup_nil
  awaited_absent c hc := by simp [awaited, start] at hc
  known c hc := by simp [keeps?, mailbox?, start] at hc

/-- What is beside the table, the pending registrations and the sending ends does not matter. -/
theorem Orderly.of_eq {hub' : Hub} (h : hub.Orderly) (hregistry : hub'.registry = hub.registry)
    (hawaited : hub'.awaited = hub.awaited) (hkeeps : ∀ c, hub'.keeps? c = hub.keeps? c)
    (hnext : hub.nextConnection ≤ hub'.nextConnection) : hub'.Orderly where
  indexed := hregistry ▸ h.indexed
  keeps_iff c := by rw [hkeeps, hawaited, hregistry, h.keeps_iff]
  awaited_nodup := hawaited ▸ h.awaited_nodup
  awaited_absent c hc := by
    rw [hawaited] at hc
    rw [hregistry, h.awaited_absent c hc]
  known c hc := by
    rw [hkeeps] at hc
    exact Nat.lt_of_lt_of_le (h.known c hc) hnext

theorem Orderly.log (h : hub.Orderly) (entry : Entry) : (hub.log entry).Orderly :=
  h.of_eq rfl rfl (fun _ => rfl) (Nat.le_refl _)

theorem Orderly.logAll (h : hub.Orderly) (entries : List Entry) : (hub.logAll entries).Orderly :=
  h.of_eq rfl rfl (fun _ => rfl) (Nat.le_refl _)

/-! ### Submissions -/

/-- A submission only joins what is pending, or is reported. -/
theorem submit_frame (hub : Hub) (command : Command) :
    ∃ pending journal, hub.submit command = { hub with pending, journal } := by
  unfold Hub.submit
  split <;> exact ⟨_, _, rfl⟩

@[simp] theorem submit_running (command : Command) :
    (hub.submit command).running = hub.running := by
  obtain ⟨_, _, h⟩ := hub.submit_frame command
  rw [h]

@[simp] theorem submit_capacity (command : Command) :
    (hub.submit command).capacity = hub.capacity := by
  obtain ⟨_, _, h⟩ := hub.submit_frame command
  rw [h]

@[simp] theorem submit_mailbox? (command : Command) (c : ConnectionId) :
    (hub.submit command).mailbox? c = hub.mailbox? c := by
  obtain ⟨_, _, h⟩ := hub.submit_frame command
  rw [h, mailbox?, mailbox?]

@[simp] theorem submit_registry (command : Command) :
    (hub.submit command).registry = hub.registry := by
  obtain ⟨_, _, h⟩ := hub.submit_frame command
  rw [h]

@[simp] theorem submit_nextConnection (command : Command) :
    (hub.submit command).nextConnection = hub.nextConnection := by
  obtain ⟨_, _, h⟩ := hub.submit_frame command
  rw [h]

theorem Orderly.submit (h : hub.Orderly) {command : Command} (hc : command.entrant? = none) :
    (hub.submit command).Orderly := by
  unfold Hub.submit
  split
  · refine h.of_eq rfl ?_ (fun _ => rfl) (Nat.le_refl _)
    simp [awaited, List.filterMap_append, hc]
  · exact h.log _

/-- A new number belongs to no connection. -/
theorem Orderly.next_unknown (h : hub.Orderly) : hub.keeps? ⟨hub.nextConnection⟩ = none := by
  by_contra hne
  have hlt := h.known ⟨hub.nextConnection⟩ (Option.isSome_iff_ne_none.mpr hne)
  exact Nat.lt_irrefl _ hlt

theorem Orderly.next_absent (h : hub.Orderly) :
    ⟨hub.nextConnection⟩ ∉ hub.awaited ∧
      hub.registry.audiences.get? ⟨hub.nextConnection⟩ = none := by
  have hno := (not_congr (h.keeps_iff ⟨hub.nextConnection⟩)).mp (by simp [h.next_unknown])
  simpa using hno

section

variable {hub' : Hub} {attached : Bool}

theorem Orderly.known_succ (h : hub.Orderly)
    (hkeeps : ∀ c, hub'.keeps? c =
      if c = ⟨hub.nextConnection⟩ then some attached else hub.keeps? c)
    (hnext : hub'.nextConnection = hub.nextConnection + 1) (c : ConnectionId)
    (hc : (hub'.keeps? c).isSome = true) : c.number < hub'.nextConnection := by
  rw [hkeeps] at hc
  rw [hnext]
  split at hc
  · simp [*]
  · exact Nat.lt_succ_of_lt (h.known c hc)

/-- A new connection that the task is told of is awaited. -/
theorem Orderly.admit (h : hub.Orderly) (hregistry : hub'.registry = hub.registry)
    (hawaited : hub'.awaited = hub.awaited ++ [⟨hub.nextConnection⟩])
    (hkeeps : ∀ c, hub'.keeps? c = if c = ⟨hub.nextConnection⟩ then some true else hub.keeps? c)
    (hnext : hub'.nextConnection = hub.nextConnection + 1) : hub'.Orderly where
  indexed := hregistry ▸ h.indexed
  keeps_iff c := by
    rw [hkeeps, hawaited, hregistry, List.mem_append, List.mem_singleton]
    split
    · simp [*]
    · rw [h.keeps_iff]
      simp [*]
  awaited_nodup := by
    rw [hawaited]
    refine List.nodup_append.mpr ⟨h.awaited_nodup, List.nodup_singleton _, fun c hc c' hc' => ?_⟩
    rintro rfl
    exact h.next_absent.1 (List.mem_singleton.mp hc' ▸ hc)
  awaited_absent c hc := by
    rw [hawaited, List.mem_append, List.mem_singleton] at hc
    rw [hregistry]
    rcases hc with hc | rfl
    · exact h.awaited_absent c hc
    · exact h.next_absent.2
  known := h.known_succ hkeeps hnext

/-- A new connection that nobody is told of is not awaited. -/
theorem Orderly.turnAway (h : hub.Orderly) (hregistry : hub'.registry = hub.registry)
    (hawaited : hub'.awaited = hub.awaited)
    (hkeeps : ∀ c, hub'.keeps? c = if c = ⟨hub.nextConnection⟩ then some false else hub.keeps? c)
    (hnext : hub'.nextConnection = hub.nextConnection + 1) : hub'.Orderly where
  indexed := hregistry ▸ h.indexed
  keeps_iff c := by
    rw [hkeeps, hawaited, hregistry]
    split
    · subst c
      simp [h.next_absent]
    · exact h.keeps_iff c
  awaited_nodup := hawaited ▸ h.awaited_nodup
  awaited_absent := by
    rw [hawaited, hregistry]
    exact h.awaited_absent
  known := h.known_succ hkeeps hnext

end

theorem Orderly.register (h : hub.Orderly) (a : Audience) : (hub.register a).2.Orderly := by
  have hkeeps (attached : Bool) (c : ConnectionId) :
      ((hub.mailboxes.insert ⟨hub.nextConnection⟩ ⟨[], attached, .listening⟩).get? c).map
        Mailbox.attached =
      if c = ⟨hub.nextConnection⟩ then some attached else hub.keeps? c := by
    rw [Table.get?_insert]
    split <;> rfl
  cases hr : hub.running with
  | true =>
    have hregistry : (hub.register a).2.registry = hub.registry := by
      simp [Hub.register, freshConnection, Hub.submit, hr]
    have hnext : (hub.register a).2.nextConnection = hub.nextConnection + 1 := by
      simp [Hub.register, freshConnection, Hub.submit, hr]
    refine h.admit hregistry ?_ (fun c => ?_) hnext
    · simp [Hub.register, freshConnection, Hub.submit, hr, awaited, List.filterMap_append,
        Command.entrant?]
    · rw [← hkeeps true c]
      simp [Hub.register, freshConnection, Hub.submit, hr, keeps?, mailbox?, Mailbox.fresh]
  | false =>
    have hregistry : (hub.register a).2.registry = hub.registry := by
      simp [Hub.register, freshConnection, Hub.submit, hr, Hub.log]
    have hnext : (hub.register a).2.nextConnection = hub.nextConnection + 1 := by
      simp [Hub.register, freshConnection, Hub.submit, hr, Hub.log]
    refine h.turnAway hregistry ?_ (fun c => ?_) hnext
    · simp [Hub.register, freshConnection, Hub.submit, hr, awaited, Hub.log]
    · rw [← hkeeps false c]
      simp [Hub.register, freshConnection, Hub.submit, hr, keeps?, mailbox?, Mailbox.fresh,
        Mailbox.detach, Hub.log]

/-! ### Receiving ends -/

theorem keeps?_updateMailbox {f : Mailbox → Mailbox}
    (hf : ∀ box, hub.mailbox? c = some box → (f box).attached = box.attached)
    (c' : ConnectionId) : (hub.updateMailbox c f).keeps? c' = hub.keeps? c' := by
  simp only [keeps?, mailbox?, updateMailbox, Table.get?_modify]
  split
  · subst c'
    cases hbox : hub.mailboxes.get? c with
    | none => rfl
    | some box => simp [hf box hbox]
  · rfl

theorem Orderly.updateMailbox (h : hub.Orderly) {f : Mailbox → Mailbox}
    (hf : ∀ box, hub.mailbox? c = some box → (f box).attached = box.attached) :
    (hub.updateMailbox c f).Orderly :=
  h.of_eq rfl rfl (keeps?_updateMailbox hf) (Nat.le_refl _)

/-! ### The control loop -/

theorem keeps?_apply (hi : hub.registry.Indexed) (command : Command) (c : ConnectionId) :
    (hub.apply command).keeps? c =
      if command = .unregister c ∧ (hub.registry.audiences.get? c).isSome = true then
        (hub.keeps? c).map fun _ => false
      else hub.keeps? c := by
  rw [keeps?, mailbox?_apply hub hi]
  cases command with
  | register c' a => simp [keeps?]
  | unregister c' =>
    simp only [Command.unregister.injEq, eq_comm (a := c')]
    by_cases hc : c = c' ∧ (hub.registry.audiences.get? c).isSome = true
    · rw [if_pos hc, if_pos hc, keeps?, Option.map_map, Option.map_map]
      rfl
    · rw [if_neg hc, if_neg hc, keeps?]
  | send m =>
    simp only [reduceCtorEq, false_and, if_false]
    split <;> simp [keeps?, Function.comp_def]
  | stats ticket => simp [keeps?]

/-- The loop takes a command that is about to be applied out of those that are pending. -/
def popped (hub : Hub) (rest : List Command) : Hub := { hub with pending := rest }

@[simp] theorem popped_registry (rest : List Command) :
    (hub.popped rest).registry = hub.registry := rfl

@[simp] theorem popped_keeps? (rest : List Command) (c : ConnectionId) :
    (hub.popped rest).keeps? c = hub.keeps? c := rfl

theorem step_cons {command : Command} {rest : List Command} (hp : hub.pending = command :: rest) :
    hub.step = (hub.popped rest).apply command := by
  simp only [step, hp, popped]

theorem step_nil (hp : hub.pending = []) : hub.step = hub := by simp [step, hp]

theorem awaited_cons {command : Command} {rest : List Command}
    (hp : hub.pending = command :: rest) :
    hub.awaited = command.entrant?.toList ++ (hub.popped rest).awaited := by
  rw [awaited, hp, List.filterMap_cons]
  cases command.entrant? <;> rfl

theorem step_awaited {command : Command} {rest : List Command}
    (hp : hub.pending = command :: rest) : hub.step.awaited = (hub.popped rest).awaited := by
  rw [step_cons hp, awaited, awaited, apply_pending]

theorem step_audiences {command : Command} {rest : List Command}
    (hp : hub.pending = command :: rest) (c : ConnectionId) :
    hub.step.registry.audiences.get? c = command.restate c (hub.registry.audiences.get? c) := by
  rw [step_cons hp, apply_registry, Command.audiences_enact]
  rfl

theorem Orderly.step_keeps? (h : hub.Orderly) {command : Command} {rest : List Command}
    (hp : hub.pending = command :: rest) (c : ConnectionId) : hub.step.keeps? c =
      if command = .unregister c ∧ (hub.registry.audiences.get? c).isSome = true then some false
      else hub.keeps? c := by
  have hi : (hub.popped rest).registry.Indexed := h.indexed
  rw [step_cons hp, keeps?_apply hi, popped_registry, popped_keeps?]
  by_cases hc : command = .unregister c ∧ (hub.registry.audiences.get? c).isSome = true
  · rw [if_pos hc, if_pos hc, (h.keeps_iff c).mpr (Or.inr hc.2), Option.map_some]
  · rw [if_neg hc, if_neg hc]

theorem Orderly.step (h : hub.Orderly) : hub.step.Orderly := by
  cases hp : hub.pending with
  | nil => exact (step_nil hp).symm ▸ h
  | cons command rest =>
    have hold := awaited_cons hp
    have hnodup := h.awaited_nodup
    rw [hold, List.nodup_append] at hnodup
    -- Nobody who is still awaited is registered already, nor by this command.
    have habsent (c : ConnectionId) (hc : c ∈ (hub.popped rest).awaited) :
        hub.step.registry.audiences.get? c = none := by
      have hnone := h.awaited_absent c (by simp [hold, hc])
      rw [step_audiences hp, hnone]
      cases command with
      | register c' a =>
        have hne : c ≠ c' := fun he => hnodup.2.2 c' (by simp [Command.entrant?]) c hc he.symm
        simp [Command.restate, hne]
      | unregister c' => simp [Command.restate]
      | send m => rfl
      | stats ticket => rfl
    refine ⟨?_, fun c => ?_, ?_, ?_, fun c hc => ?_⟩
    · rw [step_cons hp, apply_registry]
      exact Command.indexed_enact h.indexed command
    · rw [h.step_keeps? hp, step_awaited hp]
      by_cases hc : command = .unregister c ∧ (hub.registry.audiences.get? c).isSome = true
      · have hnot : c ∉ (hub.popped rest).awaited := fun hmem => by
          rw [h.awaited_absent c (by simp [hold, hmem])] at hc
          simp at hc
        rw [if_pos hc, step_audiences hp, hc.1]
        simp [Command.restate, hnot]
      · rw [if_neg hc, h.keeps_iff, hold, step_audiences hp]
        cases command with
        | register c' a =>
          by_cases hcc : c = c' <;> simp [Command.restate, Command.entrant?, hcc]
        | unregister c' =>
          by_cases hcc : c = c'
          · subst hcc
            have hnone : hub.registry.audiences.get? c = none := by simpa using hc
            simp [Command.restate, Command.entrant?, hnone]
          · simp [Command.restate, Command.entrant?, hcc]
        | send m => simp [Command.restate, Command.entrant?]
        | stats ticket => simp [Command.restate, Command.entrant?]
    · rw [step_awaited hp]
      exact hnodup.2.1
    · rw [step_awaited hp]
      exact habsent
    · have hnext : hub.step.nextConnection = hub.nextConnection := by
        rw [step_cons hp, apply_nextConnection]
        rfl
      rw [hnext]
      apply h.known
      rw [h.step_keeps? hp] at hc
      split at hc
      · rename_i hun
        rw [(h.keeps_iff c).mpr (Or.inr hun.2)]
        rfl
      · exact hc

/-! ### Prospects -/

/-- What the table will say of a connection once everything pending has been applied. -/
def prospect (hub : Hub) (c : ConnectionId) : Option Audience :=
  Command.standing c (hub.registry.audiences.get? c) hub.pending

theorem prospect_of_eq {hub' : Hub} (hregistry : hub'.registry = hub.registry)
    (hpending : hub'.pending = hub.pending) (c : ConnectionId) :
    hub'.prospect c = hub.prospect c := by
  rw [prospect, prospect, hregistry, hpending]

theorem prospect_of_settled (hp : hub.pending = []) :
    hub.prospect c = hub.registry.audiences.get? c := by
  rw [prospect, hp, Command.standing_nil]

theorem prospect_submit (hr : hub.running = true) (command : Command) :
    (hub.submit command).prospect c = command.restate c (hub.prospect c) := by
  rw [prospect, submit_registry, submit, if_pos hr, Command.standing_append]
  rfl

/-- Applying a command changes what the table says, not what it will say. -/
@[simp] theorem prospect_step : hub.step.prospect c = hub.prospect c := by
  cases hp : hub.pending with
  | nil => rw [step_nil hp]
  | cons command rest =>
    have hpending : hub.step.pending = rest := by
      rw [step_cons hp, apply_pending]
      rfl
    rw [prospect, step_audiences hp, hpending, prospect, hp, Command.standing_cons]

/-- The hub with a mailbox for a new connection, of which the loop is still to be told. -/
def opened (hub : Hub) : Hub :=
  { hub with
    mailboxes := hub.mailboxes.insert ⟨hub.nextConnection⟩
      (if hub.running then Mailbox.fresh else Mailbox.fresh.detach)
    nextConnection := hub.nextConnection + 1 }

theorem register_eq (hub : Hub) (a : Audience) : hub.register a =
    (⟨hub.nextConnection⟩, hub.opened.submit (.register ⟨hub.nextConnection⟩ a)) := rfl

theorem nextConnection_register (hub : Hub) (a : Audience) :
    (hub.register a).2.nextConnection = hub.nextConnection + 1 := submit_nextConnection _

theorem mailbox?_register (hr : hub.running = true) (a : Audience) :
    (hub.register a).2.mailbox? ⟨hub.nextConnection⟩ = some .fresh := by
  rw [register_eq, submit_mailbox?]
  simp [mailbox?, opened, hr]

theorem prospect_register (hr : hub.running = true) (a : Audience) :
    (hub.register a).2.prospect c =
      if c = ⟨hub.nextConnection⟩ then some a else hub.prospect c := by
  have hopened : hub.opened.running = true := hr
  rw [register_eq, prospect_submit hopened]
  rfl

theorem standing_of_not_entered {commands : List Command}
    (h : c ∉ commands.filterMap Command.entrant?) : Command.standing c none commands = none := by
  induction commands with
  | nil => rfl
  | cons command rest ih =>
    have hrest : c ∉ rest.filterMap Command.entrant? := by
      intro hc
      exact h (by rw [List.filterMap_cons]; cases command.entrant? <;> simp [hc])
    have hnone : command.restate c none = none := by
      cases command with
      | register c' a =>
        have hne : c ≠ c' := by
          rintro rfl
          exact h (by simp [Command.entrant?])
        simp [Command.restate, hne]
      | unregister c' => simp [Command.restate]
      | send m => rfl
      | stats ticket => rfl
    rw [Command.standing_cons, hnone]
    exact ih hrest

/-- The hub lets go of a mailbox only when the connection has no place in the table any more. -/
theorem Orderly.prospect_of_detached (h : hub.Orderly) (hk : hub.keeps? c ≠ some true) :
    hub.prospect c = none := by
  have hno := (not_congr (h.keeps_iff c)).mp hk
  rw [not_or, Bool.not_eq_true, Option.isSome_eq_false_iff, Option.isNone_iff_eq_none] at hno
  rw [prospect, hno.2]
  exact standing_of_not_entered hno.1

end Hub
end LiveUpdate
