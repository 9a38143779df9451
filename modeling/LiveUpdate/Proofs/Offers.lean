import LiveUpdate.Proofs.HubOrder

/-! The events that come up for one connection. They are those of the messages that cover its
audience, in the order of submission, from its registration until that is taken back. -/
namespace LiveUpdate

namespace Command

/-- The event that a command offers to a connection which stands under an audience. -/
def offers (before : Option Audience) : Command → List Event
  | send m => if before.any m.scope.covers then [m.event] else []
  | _ => []

/-- The events that come up for a connection while some commands are applied. -/
def events (c : ConnectionId) : Option Audience → List Command → List Event
  | _, [] => []
  | before, command :: rest => command.offers before ++ events c (command.restate c before) rest

variable {c : ConnectionId} {before : Option Audience}

theorem offers_none (command : Command) : command.offers none = [] := by
  cases command <;> rfl

theorem events_append (first rest : List Command) : events c before (first ++ rest) =
    events c before first ++ events c (standing c before first) rest := by
  induction first generalizing before with
  | nil => rfl
  | cons command others ih =>
    rw [List.cons_append, events, ih, events, standing_cons, List.append_assoc]

/-- Nothing comes up for a connection that is not registered and will not be. -/
theorem events_of_not_entered {commands : List Command} (h : c ∉ commands.filterMap entrant?) :
    events c none commands = [] := by
  induction commands with
  | nil => rfl
  | cons command rest ih =>
    have hfirst : command.entrant? ≠ some c := by
      intro he
      exact h (by simp [he])
    have hrest : c ∉ rest.filterMap entrant? := by
      intro hc
      exact h (by rw [List.filterMap_cons]; cases command.entrant? <;> simp [hc])
    have hnone : command.restate c none = none := by
      cases command with
      | register c' a =>
        have hne : c ≠ c' := by
          rintro rfl
          exact hfirst rfl
        simp [restate, hne]
      | unregister c' => simp [restate]
      | send m => rfl
      | stats ticket => rfl
    rw [events, offers_none, hnone, List.nil_append]
    exact ih hrest

end Command

namespace Hub

variable {hub hub' : Hub} {c : ConnectionId} {k : Audience} {offered addressed : List Event}

/-- The event that the loop is about to offer to a connection. -/
def offering (hub : Hub) (c : ConnectionId) : List Event :=
  match hub.pending with
  | [] => []
  | command :: _ => command.offers (hub.registry.audiences.get? c)

/-- The events that will come up for a connection once everything pending has been applied. -/
def expecting (hub : Hub) (c : ConnectionId) : List Event :=
  Command.events c (hub.registry.audiences.get? c) hub.pending

theorem expecting_step : hub.expecting c = hub.offering c ++ hub.step.expecting c := by
  cases hp : hub.pending with
  | nil => simp [offering, hp, step_nil hp]
  | cons command rest =>
    have hpending : hub.step.pending = rest := by
      rw [step_cons hp, apply_pending]
      rfl
    rw [expecting, expecting, offering, hp, hpending, step_audiences hp]
    rfl

theorem expecting_submit (hr : hub.running = true) (command : Command) :
    (hub.submit command).expecting c = hub.expecting c ++ command.offers (hub.prospect c) := by
  have hpending : (hub.submit command).pending = hub.pending ++ [command] := by
    simp [submit, hr]
  rw [expecting, submit_registry, hpending, Command.events_append, expecting, prospect]
  simp [Command.events]

/-- What a step of the loop does to a mailbox: an event that comes up is kept if somebody listens
and there is room. -/
theorem mailbox?_step (h : hub.Orderly) {box' : Mailbox} (hbox' : hub.step.mailbox? c = some box') :
    ∃ box, hub.mailbox? c = some box ∧ box'.intake = box.intake ∧
      box'.waiting = if box.intake = .listening then (hub.offering c).foldl
        (fun waiting e => if waiting.length < hub.capacity then waiting ++ [e] else waiting)
        box.waiting else box.waiting := by
  cases hp : hub.pending with
  | nil =>
    rw [step_nil hp] at hbox'
    exact ⟨box', hbox', rfl, by simp [offering, hp]⟩
  | cons command rest =>
    have hi : (hub.popped rest).registry.Indexed := h.indexed
    rw [step_cons hp, mailbox?_apply _ hi] at hbox'
    simp only [offering, hp]
    cases command with
    | register c' a => exact ⟨box', hbox', rfl, by simp [Command.offers]⟩
    | stats ticket => exact ⟨box', hbox', rfl, by simp [Command.offers]⟩
    | unregister c' =>
      simp only [] at hbox'
      split at hbox'
      · obtain ⟨box, hbox, rfl⟩ := Option.map_eq_some_iff.mp hbox'
        exact ⟨box, hbox, rfl, by simp [Command.offers, Mailbox.detach]⟩
      · exact ⟨box', hbox', rfl, by simp [Command.offers]⟩
    | send m =>
      have hold : (hub.popped rest).registry.audiences.get? c = hub.registry.audiences.get? c := rfl
      simp only [hold] at hbox'
      simp only [Command.offers]
      split at hbox'
      · rename_i hcovers
        obtain ⟨box, hbox, rfl⟩ := Option.map_eq_some_iff.mp hbox'
        refine ⟨box, hbox, Mailbox.offer_intake _ _ _, ?_⟩
        rw [if_pos hcovers]
        by_cases hl : box.intake = .listening
        · by_cases hroom : box.waiting.length < hub.capacity
          · simp [Mailbox.offer, hl, popped, hroom]
          · simp [Mailbox.offer, hl, popped, hroom]
        · simp [Mailbox.offer, hl]
      · rename_i hcovers
        exact ⟨box', hbox', rfl, by rw [if_neg hcovers]; simp⟩

/-- What has come up for a connection, and what will, is what was addressed to it since it
registered; if it leaves, what comes after that is left out. -/
structure Owes (hub : Hub) (c : ConnectionId) (k : Audience) (offered addressed : List Event) :
    Prop where
  under : ∀ a, hub.prospect c = some a → a = k
  all : (hub.prospect c).isSome = true → offered ++ hub.expecting c = addressed
  part : offered ++ hub.expecting c <+: addressed

theorem Owes.of_eq (h : hub.Owes c k offered addressed) (hregistry : hub'.registry = hub.registry)
    (hpending : hub'.pending = hub.pending) : hub'.Owes c k offered addressed := by
  have hprospect := prospect_of_eq hregistry hpending c
  have hexpecting : hub'.expecting c = hub.expecting c := by
    rw [expecting, expecting, hregistry, hpending]
  refine ⟨fun a ha => h.under a (hprospect ▸ ha), fun hs => ?_, ?_⟩
  · rw [hexpecting]
    exact h.all (hprospect ▸ hs)
  · rw [hexpecting]
    exact h.part

theorem Owes.step (h : hub.Owes c k offered addressed) :
    hub.step.Owes c k (offered ++ hub.offering c) addressed := by
  have hexpecting : offered ++ hub.offering c ++ hub.step.expecting c =
      offered ++ hub.expecting c := by
    rw [List.append_assoc, ← expecting_step]
  refine ⟨fun a ha => h.under a (prospect_step ▸ ha), fun hs => ?_, ?_⟩
  · rw [hexpecting]
    exact h.all (prospect_step ▸ hs)
  · rw [hexpecting]
    exact h.part

theorem Owes.submit (h : hub.Owes c k offered addressed) (hr : hub.running = true)
    (command : Command) (hc : command.entrant? ≠ some c) :
    (hub.submit command).Owes c k offered (addressed ++ command.offers (some k)) := by
  have hprospect := prospect_submit (c := c) hr command
  have hkept (a : Audience) (ha : command.restate c (hub.prospect c) = some a) :
      hub.prospect c = some a := by
    cases command with
    | register c' a' =>
      have hne : c ≠ c' := by
        rintro rfl
        exact hc rfl
      simpa [Command.restate, hne] using ha
    | unregister c' =>
      simp only [Command.restate] at ha
      split at ha
      · cases ha
      · exact ha
    | send m => exact ha
    | stats ticket => exact ha
  have hexpecting := expecting_submit (c := c) hr command
  have hall (a : Audience) (ha : hub.prospect c = some a) :
      offered ++ (hub.submit command).expecting c =
        addressed ++ command.offers (some k) := by
    rw [hexpecting, ← List.append_assoc, h.all (by rw [ha]; rfl), ha, h.under a ha]
  refine ⟨fun a ha => h.under a (hkept a (hprospect ▸ ha)), fun hs => ?_, ?_⟩
  · obtain ⟨a, ha⟩ := Option.isSome_iff_exists.mp hs
    exact hall a (hkept a (hprospect ▸ ha))
  · cases ha : hub.prospect c with
    | some a =>
      rw [hall a ha]
    | none =>
      rw [hexpecting, ha, Command.offers_none, List.append_nil]
      exact h.part.trans (List.prefix_append _ _)

/-- The events of the messages that cover an audience. -/
def eventsFor (k : Audience) (messages : List Message) : List Event :=
  (messages.filter (·.scope.covers k)).map Message.event

theorem eventsFor_cons (k : Audience) (m : Message) (rest : List Message) :
    eventsFor k (m :: rest) = (Command.send m).offers (some k) ++ eventsFor k rest := by
  by_cases hm : m.scope.covers k = true
  · simp [eventsFor, Command.offers, hm]
  · simp [eventsFor, Command.offers, hm]

/-- Another connection registers. -/
theorem Owes.register (h : hub.Owes c k offered addressed) (hr : hub.running = true)
    (a : Audience) (hc : c ≠ ⟨hub.nextConnection⟩) :
    (hub.register a).2.Owes c k offered addressed := by
  have hopened : hub.opened.Owes c k offered addressed := h.of_eq rfl rfl
  have hentrant : (Command.register ⟨hub.nextConnection⟩ a).entrant? ≠ some c := by
    simp [Command.entrant?, Ne.symm hc]
  have hsubmitted := hopened.submit hr _ hentrant
  rw [register_eq]
  rwa [show (Command.register ⟨hub.nextConnection⟩ a).offers (some k) = [] from rfl,
    List.append_nil] at hsubmitted

/-- A connection that registers has nothing behind it. -/
theorem Orderly.owes_register (h : hub.Orderly) (hr : hub.running = true) (k : Audience) :
    (hub.register k).2.Owes ⟨hub.nextConnection⟩ k [] [] := by
  obtain ⟨hawaited, habsent⟩ := h.next_absent
  have hprospect := prospect_register (c := ⟨hub.nextConnection⟩) hr k
  rw [if_pos rfl] at hprospect
  have hexpecting : (hub.register k).2.expecting ⟨hub.nextConnection⟩ = [] := by
    have hopened : hub.opened.running = true := hr
    have hold : hub.opened.expecting ⟨hub.nextConnection⟩ = [] := by
      show Command.events _ (hub.registry.audiences.get? _) hub.pending = []
      rw [habsent]
      exact Command.events_of_not_entered hawaited
    rw [register_eq, expecting_submit hopened, hold]
    rfl
  refine ⟨fun a ha => ?_, fun _ => hexpecting, by rw [hexpecting]; exact List.prefix_rfl⟩
  rw [hprospect] at ha
  exact (Option.some.inj ha).symm

/-! ### The hub without a connection -/

variable {hub'' : Hub} {fresh fresh' : List Event}

/-- The hub goes on without coming to a connection: it is only addressed, or its mailbox goes. -/
structure Spares (hub hub' : Hub) (c : ConnectionId) (k : Audience) (fresh : List Event) :
    Prop where
  known : hub.nextConnection ≤ hub'.nextConnection
  capacity : hub'.capacity = hub.capacity
  running : hub'.running = hub.running
  owes : ∀ offered addressed, hub.Owes c k offered addressed →
    hub'.Owes c k offered (addressed ++ fresh)
  mailbox : ∀ box, hub'.mailbox? c = some box → hub.mailbox? c = some box ∨
    box.waiting = [] ∧ box.intake ≠ .listening

/-- The hub goes on without touching what it has for its connections. -/
theorem spares_of_eq (c : ConnectionId) (k : Audience)
    (hnext : hub'.nextConnection = hub.nextConnection)
    (hcapacity : hub'.capacity = hub.capacity) (hrunning : hub'.running = hub.running)
    (hregistry : hub'.registry = hub.registry) (hpending : hub'.pending = hub.pending)
    (hmailboxes : hub'.mailboxes = hub.mailboxes) : hub.Spares hub' c k [] where
  known := Nat.le_of_eq hnext.symm
  capacity := hcapacity
  running := hrunning
  owes offered addressed h := by
    rw [List.append_nil]
    exact h.of_eq hregistry hpending
  mailbox box hbox := by
    rw [mailbox?, hmailboxes] at hbox
    exact Or.inl hbox

theorem spares_refl (hub : Hub) (c : ConnectionId) (k : Audience) : hub.Spares hub c k [] :=
  spares_of_eq c k rfl rfl rfl rfl rfl rfl

theorem Spares.trans (h : hub.Spares hub' c k fresh) (h' : hub'.Spares hub'' c k fresh') :
    hub.Spares hub'' c k (fresh ++ fresh') where
  known := Nat.le_trans h.known h'.known
  capacity := h'.capacity.trans h.capacity
  running := h'.running.trans h.running
  owes offered addressed ho := by
    rw [← List.append_assoc]
    exact h'.owes _ _ (h.owes _ _ ho)
  mailbox box hbox := by
    rcases h'.mailbox box hbox with hold | hgone
    · exact h.mailbox box hold
    · exact Or.inr hgone

theorem Spares.logAll (h : hub.Spares hub' c k fresh) (entries : List Entry) :
    hub.Spares (hub'.logAll entries) c k fresh :=
  ⟨h.known, h.capacity, h.running, fun o a ho => (h.owes o a ho).of_eq rfl rfl, h.mailbox⟩

theorem spares_submit (hr : hub.running = true) (command : Command)
    (hc : command.entrant? ≠ some c) :
    hub.Spares (hub.submit command) c k (command.offers (some k)) where
  known := Nat.le_of_eq (submit_nextConnection command).symm
  capacity := submit_capacity command
  running := submit_running command
  owes offered addressed h := h.submit hr command hc
  mailbox box hbox := by
    rw [submit_mailbox?] at hbox
    exact Or.inl hbox

theorem spares_unregister (hr : hub.running = true) (c' : ConnectionId) :
    hub.Spares (hub.unregister c') c k [] :=
  spares_submit hr (.unregister c') nofun

/-- The commands of a reader or a supervisor: none, or to unregister. -/
theorem spares_submitAll (hr : hub.running = true) {commands : List Command}
    (hc : commands = [] ∨ ∃ c', commands = [.unregister c']) :
    hub.Spares (hub.submitAll commands) c k [] := by
  rcases hc with rfl | ⟨c', rfl⟩
  · exact spares_refl hub c k
  · exact spares_unregister hr c'

theorem spares_updateMailbox (hub : Hub) (k : Audience) {c' : ConnectionId} (hc : c' ≠ c)
    (f : Mailbox → Mailbox) : hub.Spares (hub.updateMailbox c' f) c k [] where
  known := Nat.le_refl _
  capacity := rfl
  running := rfl
  owes offered addressed h := by
    rw [List.append_nil]
    exact h.of_eq rfl rfl
  mailbox box hbox := by
    simp only [mailbox?, updateMailbox, Table.get?_modify, if_neg (Ne.symm hc)] at hbox
    exact Or.inl hbox

theorem spares_abandon (hub : Hub) (k : Audience) (c' : ConnectionId) :
    hub.Spares (hub.updateMailbox c' Mailbox.abandon) c k [] := by
  by_cases hc : c' = c
  · refine ⟨Nat.le_refl _, rfl, rfl, fun o a h => ?_, fun box hbox => Or.inr ?_⟩
    · rw [List.append_nil]
      exact h.of_eq rfl rfl
    · simp only [mailbox?, updateMailbox, Table.get?_modify, if_pos hc.symm] at hbox
      obtain ⟨old, -, rfl⟩ := Option.map_eq_some_iff.mp hbox
      exact ⟨rfl, by simp [Mailbox.abandon]⟩
  · exact spares_updateMailbox hub k hc Mailbox.abandon

theorem spares_register (hr : hub.running = true) (a : Audience) (hc : c ≠ ⟨hub.nextConnection⟩) :
    hub.Spares (hub.register a).2 c k [] where
  known := by
    rw [register_eq, submit_nextConnection]
    exact Nat.le_succ _
  capacity := by
    rw [register_eq, submit_capacity]
    rfl
  running := by
    rw [register_eq, submit_running]
    rfl
  owes offered addressed h := by
    rw [List.append_nil]
    exact h.register hr a hc
  mailbox box hbox := by
    rw [register_eq, submit_mailbox?] at hbox
    simp only [mailbox?, opened, Table.get?_insert, if_neg hc] at hbox
    exact Or.inl hbox

theorem spares_submitSends (hr : hub.running = true) (messages : List Message) :
    hub.Spares (hub.submitAll (messages.map .send)) c k (eventsFor k messages) := by
  induction messages generalizing hub with
  | nil => exact spares_refl hub c k
  | cons m rest ih =>
    rw [eventsFor_cons]
    exact (spares_submit hr (.send m) nofun).trans (ih ((submit_running _).trans hr))

end Hub
end LiveUpdate
