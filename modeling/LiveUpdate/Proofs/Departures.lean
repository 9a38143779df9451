import LiveUpdate.Proofs.Offers
import LiveUpdate.Proofs.SubmissionOrder

/-! How a connection leaves. Once the hub has been told, the connection stays out of the table to
come, whatever else is submitted, and what is still enqueued for it was submitted before. -/
namespace LiveUpdate

theorem Command.restate_none {c : ConnectionId} {command : Command}
    (h : command.entrant? ≠ some c) : command.restate c none = none := by
  cases command with
  | register c' a =>
    have hne : c ≠ c' := by
      rintro rfl
      exact h rfl
    simp [restate, hne]
  | unregister c' => simp [restate]
  | send m => rfl
  | stats ticket => rfl

namespace Hub

variable {hub : Hub} {c : ConnectionId}

/-! ### Leaving -/

theorem prospect_unregister (hr : hub.running = true) : (hub.unregister c).prospect c = none := by
  rw [unregister, prospect_submit hr]
  simp [Command.restate]

/-- Only its own registration brings a connection into the table; a hub without a loop takes no
commands at all. -/
theorem prospect_submit_of_none (h : hub.prospect c = none) {command : Command}
    (hc : command.entrant? ≠ some c) : (hub.submit command).prospect c = none := by
  cases hr : hub.running with
  | true => rw [prospect_submit hr, h, Command.restate_none hc]
  | false =>
    have hsubmit : hub.submit command = hub.log .discarded := by simp [submit, hr]
    rw [hsubmit]
    exact h

theorem prospect_submit_of_quiet (h : hub.prospect c = none) {command : Command}
    (hc : command.entrant? = none) : (hub.submit command).prospect c = none :=
  prospect_submit_of_none h (by simp [hc])

theorem prospect_submitAll_of_none {commands : List Command} (h : hub.prospect c = none)
    (hc : ∀ command ∈ commands, command.entrant? = none) :
    (hub.submitAll commands).prospect c = none := by
  induction commands generalizing hub with
  | nil => exact h
  | cons command rest ih =>
    exact ih (prospect_submit_of_quiet h (hc command List.mem_cons_self))
      fun command' hmem => hc command' (List.mem_cons_of_mem _ hmem)

@[simp] theorem submitAll_running (commands : List Command) :
    (hub.submitAll commands).running = hub.running := by
  induction commands generalizing hub with
  | nil => rfl
  | cons command rest ih => exact (@ih (hub.submit command)).trans (submit_running command)

/-- Commands that are submitted one after the other join what is pending; without a loop, each of
them is reported as discarded. -/
theorem submitAll_eq (hub : Hub) (commands : List Command) : hub.submitAll commands =
    { hub with
      pending := hub.pending ++ if hub.running then commands else []
      journal := hub.journal ++
        if hub.running then [] else List.replicate commands.length .discarded } := by
  induction commands generalizing hub with
  | nil => simp [submitAll]
  | cons command rest ih =>
    have hall : hub.submitAll (command :: rest) = (hub.submit command).submitAll rest := rfl
    by_cases hr : hub.running
    · simp [hall, ih, submit, hr]
    · simp [hall, ih, submit, hr, log, List.replicate_succ]

/-- Numbers are not given twice, so that nothing that happens to the hub brings a connection
back. -/
theorem prospect_perform_of_none (h : hub.prospect c = none) (hc : c.number < hub.nextConnection)
    (act : Act) : (hub.perform act).prospect c = none := by
  have hsendTo (audiences : List Audience) (e : Event) :
      (hub.sendTo audiences e).prospect c = none := by
    rw [sendTo]
    split
    · exact h
    · exact prospect_submit_of_quiet h rfl
  cases act with
  | register a =>
    have hopened : hub.opened.prospect c = none := h
    refine prospect_submit_of_none hopened fun he => ?_
    rw [← Option.some.inj he] at hc
    exact Nat.lt_irrefl _ hc
  | unregister c' => exact prospect_submit_of_quiet h rfl
  | send m => exact prospect_submit_of_quiet h rfl
  | sendTo audiences e => exact hsendTo audiences e
  | sendToStudents students e => exact hsendTo _ e
  | askStats =>
    have hasked : { hub with nextTicket := hub.nextTicket + 1 }.prospect c = none := h
    exact prospect_submit_of_quiet hasked rfl
  | step => exact prospect_step.trans h
  | take c' => exact h
  | refuseMore c' => exact h
  | abandon c' => exact h

/-- Once it has caught up, the table of the hub is the one that was to come. -/
theorem audiences_catchUp (hub : Hub) (c : ConnectionId) :
    hub.catchUp.registry.audiences.get? c = hub.prospect c := by
  have hsteps (n : Nat) (hub : Hub) :
      (hub.run (List.replicate n .step)).prospect c = hub.prospect c := by
    induction n generalizing hub with
    | zero => rfl
    | succ n ih => exact (ih hub.step).trans prospect_step
  rw [← prospect_of_settled (catchUp_pending hub)]
  exact hsteps _ hub

/-! ### What is enqueued -/

/-- What an act puts into the mailbox of a connection; just this is counted as delivered to it. -/
def enqueuing (hub : Hub) (c : ConnectionId) : Act → List Event
  | .step => (hub.offering c).filter fun e =>
      (hub.mailbox? c).any fun box => (box.offer hub.capacity e).1 = .delivered
  | _ => []

/-- What a run puts into the mailbox of a connection, in order. -/
def enqueued (hub : Hub) (c : ConnectionId) (acts : List Act) : List Event :=
  gather (fun hub => hub.enqueuing c) hub acts

theorem enqueued_cons (act : Act) (rest : List Act) : hub.enqueued c (act :: rest) =
    hub.enqueuing c act ++ (hub.perform act).enqueued c rest := rfl

theorem enqueuing_sublist_step : (hub.enqueuing c .step).Sublist (hub.offering c) :=
  List.filter_sublist

/-- A step offers a connection one event at most. -/
theorem offering_cases : hub.offering c = [] ∨ ∃ e, hub.offering c = [e] := by
  unfold offering
  split
  · exact Or.inl rfl
  · rename_i command rest hp
    cases command with
    | send m =>
      simp only [Command.offers]
      split <;> simp
    | _ => exact Or.inl rfl

/-- What is submitted for a connection that is on its way out never comes up for it. -/
theorem expecting_submit_of_none (h : hub.prospect c = none) (command : Command) :
    (hub.submit command).expecting c = hub.expecting c := by
  cases hr : hub.running with
  | true => rw [expecting_submit hr, h, Command.offers_none, List.append_nil]
  | false =>
    have hsubmit : hub.submit command = hub.log .discarded := by simp [submit, hr]
    rw [hsubmit]
    rfl

/-- For a connection that is on its way out nothing new comes up: what is enqueued for it was
pending already. -/
theorem expecting_perform_of_none (h : hub.prospect c = none) (act : Act) :
    (hub.enqueuing c act ++ (hub.perform act).expecting c).Sublist (hub.expecting c) := by
  have hsendTo (audiences : List Audience) (e : Event) :
      ((hub.sendTo audiences e).expecting c).Sublist (hub.expecting c) := by
    rw [sendTo]
    split
    · exact List.Sublist.refl _
    · exact (expecting_submit_of_none h _) ▸ List.Sublist.refl _
  cases act with
  | register a =>
    have hopened : hub.opened.prospect c = none := h
    exact (expecting_submit_of_none hopened _) ▸ List.Sublist.refl _
  | unregister c' => exact (expecting_submit_of_none h _) ▸ List.Sublist.refl _
  | send m => exact (expecting_submit_of_none h _) ▸ List.Sublist.refl _
  | sendTo audiences e => exact hsendTo audiences e
  | sendToStudents students e => exact hsendTo _ e
  | askStats =>
    have hasked : { hub with nextTicket := hub.nextTicket + 1 }.prospect c = none := h
    exact (expecting_submit_of_none hasked _) ▸ List.Sublist.refl _
  | step =>
    rw [hub.expecting_step]
    exact enqueuing_sublist_step.append_right _
  | take c' => exact List.Sublist.refl _
  | refuseMore c' => exact List.Sublist.refl _
  | abandon c' => exact List.Sublist.refl _

/-- A mailbox whose receiver listens gets what is enqueued for it, behind what waits there. -/
theorem mailbox?_step_listening (h : hub.Orderly) {box : Mailbox}
    (hbox : hub.mailbox? c = some box) : ∃ box', hub.step.mailbox? c = some box' ∧
      box'.intake = box.intake ∧ box'.waiting = box.waiting ++ hub.enqueuing c .step := by
  have hthere : ∃ box', hub.step.mailbox? c = some box' := by
    cases hp : hub.pending with
    | nil => exact ⟨box, (congrArg (mailbox? · c) (step_nil hp)).trans hbox⟩
    | cons command rest =>
      have hi : (hub.popped rest).registry.Indexed := h.indexed
      have hbox₀ : (hub.popped rest).mailbox? c = some box := hbox
      rw [step_cons hp, mailbox?_apply _ hi, hbox₀]
      cases command with
      | unregister c' => simp only []; split <;> exact ⟨_, rfl⟩
      | send m => simp only []; split <;> exact ⟨_, rfl⟩
      | _ => exact ⟨_, rfl⟩
  obtain ⟨box', hbox'⟩ := hthere
  obtain ⟨old, hold, hintake, hwaiting⟩ := mailbox?_step h hbox'
  obtain rfl : old = box := Option.some.inj (hold.symm.trans hbox)
  refine ⟨box', hbox', hintake, ?_⟩
  rw [hwaiting, enqueuing, hold]
  rcases hub.offering_cases (c := c) with hnone | ⟨e, hone⟩
  · simp [hnone]
  · rw [hone]
    simp only [List.filter_cons, List.filter_nil, List.foldl_cons, List.foldl_nil, Option.any_some,
      Mailbox.offer]
    by_cases hl : old.intake = .listening
    · by_cases hroom : old.waiting.length < hub.capacity <;> simp [hl, hroom]
    · simp [hl]

theorem updateMailbox_eq {box : Mailbox} (hbox : hub.mailbox? c = some box) (f : Mailbox → Mailbox) :
    hub.updateMailbox c f = { hub with mailboxes := hub.mailboxes.insert c (f box) } := by
  rw [updateMailbox, Table.modify_eq_insert f hbox]

theorem mailbox?_updateMailbox_own {box : Mailbox} (hbox : hub.mailbox? c = some box)
    (f : Mailbox → Mailbox) :
    (hub.updateMailbox c f).mailbox? c = some (f box) := by
  rw [updateMailbox_eq hbox, mailbox?, Table.get?_insert, if_pos rfl]

theorem updateMailbox_self {box : Mailbox} (hbox : hub.mailbox? c = some box) :
    (hub.updateMailbox c fun _ => box) = hub := by
  rw [updateMailbox_eq hbox, Table.insert_self hbox]

/-- Whatever happens to the hub, short of what its receiver does, a mailbox gains what is enqueued
for it and nothing else. -/
theorem mailbox?_perform (h : hub.Orderly) {act : Act} (hact : act.receiver? ≠ some c)
    {box : Mailbox} (hbox : hub.mailbox? c = some box) :
    ∃ box', (hub.perform act).mailbox? c = some box' ∧ box'.intake = box.intake ∧
      box'.waiting = box.waiting ++ hub.enqueuing c act := by
  have hsame {hub' : Hub} (hbox' : hub'.mailbox? c = hub.mailbox? c) :
      ∃ box', hub'.mailbox? c = some box' ∧ box'.intake = box.intake ∧
        box'.waiting = box.waiting ++ [] :=
    ⟨box, hbox'.trans hbox, rfl, (List.append_nil _).symm⟩
  have hother {c' : ConnectionId} (hc : some c' ≠ some c) (f : Mailbox → Mailbox) :
      (hub.updateMailbox c' f).mailbox? c = hub.mailbox? c := by
    have hne : c ≠ c' := fun he => hc (congrArg some he.symm)
    simp only [mailbox?, updateMailbox, Table.get?_modify, if_neg hne]
  cases act with
  | register a =>
    have hlt : c.number < hub.nextConnection := h.known c (by rw [keeps?, hbox]; rfl)
    have hne : c ≠ ⟨hub.nextConnection⟩ := by
      rintro rfl
      exact Nat.lt_irrefl _ hlt
    refine hsame ?_
    rw [perform, register_eq, submit_mailbox?]
    simp only [mailbox?, opened, Table.get?_insert, if_neg hne]
  | unregister c' => exact hsame (submit_mailbox? _ c)
  | send m => exact hsame (submit_mailbox? _ c)
  | sendTo audiences e => exact hsame (sendTo_mailbox? audiences e c)
  | sendToStudents students e => exact hsame (sendTo_mailbox? _ e c)
  | askStats => exact hsame (submit_mailbox? _ c)
  | step => exact mailbox?_step_listening h hbox
  | take c' => exact hsame (hother hact _)
  | refuseMore c' => exact hsame (hother hact _)
  | abandon c' => exact hsame (hother hact _)

theorem mailbox?_run (h : hub.Orderly) {acts : List Act}
    (hacts : ∀ act ∈ acts, act.receiver? ≠ some c) {box : Mailbox}
    (hbox : hub.mailbox? c = some box) :
    ∃ box', (hub.run acts).mailbox? c = some box' ∧ box'.intake = box.intake ∧
      box'.waiting = box.waiting ++ hub.enqueued c acts := by
  induction acts generalizing hub box with
  | nil => exact ⟨box, hbox, rfl, (List.append_nil _).symm⟩
  | cons act rest ih =>
    obtain ⟨box₁, hbox₁, hintake₁, hwaiting₁⟩ :=
      mailbox?_perform h (hacts act List.mem_cons_self) hbox
    obtain ⟨box', hbox', hintake, hwaiting⟩ := ih (h.perform act)
      (fun act' hmem => hacts act' (List.mem_cons_of_mem _ hmem)) hbox₁
    refine ⟨box', hbox', hintake.trans hintake₁, ?_⟩
    rw [hwaiting, hwaiting₁, enqueued_cons, List.append_assoc]

end Hub
end LiveUpdate
