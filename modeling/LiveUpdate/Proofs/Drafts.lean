import LiveUpdate.Proofs.Intake
import LiveUpdate.Proofs.WellFormed

/-! Where the events at the hub come from. An action brings only what was made of the drafts that it
was given, and the control loop and the receivers add nothing to it. -/
namespace LiveUpdate

/-! ### Events at the hub -/

namespace Hub

/-- The events that are submitted in a happening. -/
def Happening.brings : Happening → List Event
  | .act (.send m) => [m.event]
  | .act (.sendTo _ e) | .act (.sendToStudents _ e) => [e]
  | _ => []

theorem brings_of_internal {x : Happening} (h : x.isInternal = true) : x.brings = [] := by
  cases x with
  | act act => cases act <;> first | rfl | cases h
  | _ => rfl

/-- Every event that is pending or waits for a receiver is of this sort. -/
structure Carries (hub : Hub) (P : Event → Prop) : Prop where
  pending : ∀ m, .send m ∈ hub.pending → P m.event
  waiting : ∀ c box, hub.mailbox? c = some box → ∀ e ∈ box.waiting, P e

variable {hub hub' : Hub} {P : Event → Prop}

/-- Nothing new is there. -/
theorem Carries.of_less (h : hub.Carries P) (hpending : ∀ command ∈ hub'.pending, command ∈ hub.pending)
    (hwaiting : ∀ c box', hub'.mailbox? c = some box' → ∀ e ∈ box'.waiting,
      ∃ box, hub.mailbox? c = some box ∧ e ∈ box.waiting) : hub'.Carries P where
  pending m hm := h.pending m (hpending _ hm)
  waiting c box' hbox' e he := by
    obtain ⟨box, hbox, he⟩ := hwaiting c box' hbox' e he
    exact h.waiting c box hbox e he

/-- The mailboxes are as they were, and what is new among the pending commands is of this sort. -/
theorem Carries.of_pending (h : hub.Carries P) (hmailbox : ∀ c, hub'.mailbox? c = hub.mailbox? c)
    (hpending : ∀ m, .send m ∈ hub'.pending → P m.event) : hub'.Carries P where
  pending := hpending
  waiting c box hbox := h.waiting c box (hmailbox c ▸ hbox)

theorem Carries.same (h : hub.Carries P) (hpending : hub'.pending = hub.pending)
    (hmailboxes : hub'.mailboxes = hub.mailboxes) : hub'.Carries P :=
  h.of_pending (fun c => by rw [mailbox?, hmailboxes, mailbox?]) (hpending ▸ h.pending)

theorem Carries.submit (h : hub.Carries P) {command : Command}
    (hc : ∀ m, command = .send m → P m.event) : (hub.submit command).Carries P := by
  refine h.of_pending (submit_mailbox? command) fun m hm => ?_
  unfold Hub.submit at hm
  split at hm
  · rcases List.mem_append.mp hm with hm | hm
    · exact h.pending m hm
    · exact hc m (List.mem_singleton.mp hm).symm
  · exact h.pending m hm

theorem Carries.updateMailbox (h : hub.Carries P) (c : ConnectionId) {f : Mailbox → Mailbox}
    (hf : ∀ box, ∀ e ∈ (f box).waiting, e ∈ box.waiting) : (hub.updateMailbox c f).Carries P := by
  refine h.of_less (fun _ hc => hc) fun c' box' hbox' e he => ?_
  simp only [mailbox?, Hub.updateMailbox, Table.get?_modify] at hbox' ⊢
  split at hbox'
  · obtain ⟨box, hbox, rfl⟩ := Option.map_eq_some_iff.mp hbox'
    exact ⟨box, hbox, hf box e he⟩
  · exact ⟨box', hbox', he⟩

theorem Carries.updateOwn (h : hub.Carries P) {c : ConnectionId} {box box' : Mailbox}
    (hbox : hub.mailbox? c = some box) (hless : ∀ e ∈ box'.waiting, e ∈ box.waiting) :
    (hub.updateMailbox c fun _ => box').Carries P := by
  rw [updateMailbox_eq hbox]
  refine h.of_less (fun _ hc => hc) fun c' box₁ hbox₁ e he => ?_
  simp only [mailbox?, Table.get?_insert] at hbox₁ hbox ⊢
  split at hbox₁
  · rename_i hc
    cases hbox₁
    exact ⟨box, hc ▸ hbox, hless e he⟩
  · exact ⟨box₁, hbox₁, he⟩

theorem Carries.deliver (h : hub.Carries P) {e : Event} (he : P e) (c : ConnectionId) :
    (deliver e hub c).Carries P := by
  obtain ⟨_, _, _, _, hframe⟩ := deliver_frame e hub c
  refine ⟨fun m hm => h.pending m (by rw [hframe] at hm; exact hm), fun c' box' hbox' e' he' => ?_⟩
  rw [mailbox?_deliver] at hbox'
  split at hbox'
  · obtain ⟨box, hbox, rfl⟩ := Option.map_eq_some_iff.mp hbox'
    have hmem : e' ∈ box.waiting ∨ e' = e := by
      unfold Mailbox.offer at he'
      split at he'
      · exact Or.inl he'
      · split at he'
        · simpa using he'
        · exact Or.inl he'
    rcases hmem with hmem | rfl
    · exact h.waiting c' box hbox e' hmem
    · exact he
  · exact h.waiting c' box' hbox' e' he'

theorem Carries.fanOut (h : hub.Carries P) {m : Message} (hm : P m.event) :
    (hub.fanOut m).Carries P := by
  have hall (cs : List ConnectionId) : (cs.foldl (Hub.deliver m.event) hub).Carries P := by
    induction cs generalizing hub with
    | nil => exact h
    | cons c rest ih => exact ih (h.deliver hm c)
  exact hall _

/-- The event of the command that is applied was pending. -/
theorem Carries.step (h : hub.Carries P) : hub.step.Carries P := by
  cases hp : hub.pending with
  | nil => rwa [step_nil hp]
  | cons command rest =>
    have hpopped : (hub.popped rest).Carries P := by
      refine h.of_less (fun x hx => ?_) fun c box hbox e he => ⟨box, hbox, he⟩
      rw [hp]
      exact List.mem_cons_of_mem _ hx
    rw [step_cons hp]
    cases command with
    | register c a => exact hpopped.same rfl rfl
    | unregister c =>
      simp only [apply]
      split
      · exact (hpopped.updateMailbox c (f := Mailbox.detach) fun _ _ he => he).same rfl rfl
      · exact hpopped.same rfl rfl
    | send m =>
      have hm : P m.event := h.pending m (by rw [hp]; exact List.mem_cons_self)
      exact (hpopped.fanOut hm).same rfl rfl
    | stats ticket => exact hpopped.same rfl rfl

theorem Carries.halt (h : hub.Carries P) : hub.halt.Carries P where
  pending _ hm := absurd hm List.not_mem_nil
  waiting c box' hbox' e he := by
    simp only [mailbox?, Hub.halt, Table.get?_mapValues] at hbox'
    obtain ⟨box, hbox, rfl⟩ := Option.map_eq_some_iff.mp hbox'
    exact h.waiting c box hbox e he

/-- What is submitted in a happening is all that can be new. -/
theorem Carries.happen (h : hub.Carries P) {x : Happening} (hx : ∀ e ∈ x.brings, P e) :
    (hub.happen x).Carries P := by
  have hsendTo (audiences : List Audience) {e : Event} (he : P e) :
      (hub.sendTo audiences e).Carries P := by
    rw [sendTo]
    split
    · exact h.same rfl rfl
    · exact h.submit fun m hm => by cases hm; exact he
  cases x with
  | act act =>
    cases act with
    | register a =>
      have hopened : hub.opened.Carries P := by
        refine ⟨h.pending, fun c box hbox e he => ?_⟩
        simp only [mailbox?, opened, Table.get?_insert] at hbox
        split at hbox
        · cases hbox
          split at he <;> cases he
        · exact h.waiting c box hbox e he
      show (hub.register a).2.Carries P
      rw [register_eq]
      exact hopened.submit fun m hm => by cases hm
    | unregister c => exact h.submit fun m hm => by cases hm
    | send m => exact h.submit fun m' hm => by cases hm; exact hx _ List.mem_cons_self
    | sendTo audiences e => exact hsendTo audiences (hx e List.mem_cons_self)
    | sendToStudents students e => exact hsendTo _ (hx e List.mem_cons_self)
    | askStats =>
      have hasked : { hub with nextTicket := hub.nextTicket + 1 }.Carries P := h.same rfl rfl
      exact hasked.submit fun m hm => by cases hm
    | step => exact h.step
    | take c =>
      refine h.updateMailbox c fun box e he => ?_
      unfold Mailbox.take at he
      split at he
      · exact he
      · rename_i first rest hw
        rw [hw]
        exact List.mem_cons_of_mem _ he
    | refuseMore c =>
      refine h.updateMailbox c fun box e he => ?_
      unfold Mailbox.refuseMore at he
      split at he <;> exact he
    | abandon c => exact h.updateMailbox c fun box e he => absurd he List.not_mem_nil
  | noted entries => exact h.same rfl rfl
  | numbered => exact h.same rfl rfl
  | fetched ticket => exact h.same rfl rfl
  | stopped => exact (h.same rfl rfl : (hub.log _).Carries P).halt

theorem Carries.undergo (h : hub.Carries P) {course : List Happening}
    (hcourse : ∀ x ∈ course, ∀ e ∈ x.brings, P e) : (hub.undergo course).Carries P := by
  induction course generalizing hub with
  | nil => exact h
  | cons x rest ih =>
    exact ih (h.happen (hcourse x List.mem_cons_self)) fun y hy =>
      hcourse y (List.mem_cons_of_mem _ hy)

/-- Numbers are only ever used up. -/
theorem nextConnection_happen (x : Happening) :
    hub.nextConnection ≤ (hub.happen x).nextConnection := by
  have hsendTo (audiences : List Audience) (e : Event) :
      (hub.sendTo audiences e).nextConnection = hub.nextConnection := by
    rw [sendTo]
    split
    · rfl
    · exact submit_nextConnection _
  cases x with
  | act act =>
    cases act with
    | register a =>
      show _ ≤ (hub.register a).2.nextConnection
      rw [nextConnection_register]
      exact Nat.le_succ _
    | unregister c => exact (submit_nextConnection _).ge
    | send m => exact (submit_nextConnection _).ge
    | sendTo audiences e => exact (hsendTo audiences e).ge
    | sendToStudents students e => exact (hsendTo _ e).ge
    | askStats =>
      exact (@submit_nextConnection { hub with nextTicket := hub.nextTicket + 1 } _).ge
    | step =>
      show _ ≤ hub.step.nextConnection
      cases hp : hub.pending with
      | nil => rw [step_nil hp]
      | cons command rest =>
        rw [step_cons hp, apply_nextConnection]
        rfl
    | _ => exact Nat.le_refl _
  | numbered => exact Nat.le_succ _
  | _ => exact Nat.le_refl _

theorem nextConnection_undergo (course : List Happening) :
    hub.nextConnection ≤ (hub.undergo course).nextConnection := by
  induction course generalizing hub with
  | nil => exact Nat.le_refl _
  | cons x rest ih => exact (nextConnection_happen x).trans ih

end Hub

/-! ### Drafts -/

/-- The drafts that an errand brings with it. -/
def Web.Errand.drafts : Web.Errand → List Draft
  | .publish d => d.drafts
  | _ => []

def Web.Step.drafts (config : Config) : Web.Step → List Draft
  | .http r _ | .connect r _ => (Web.errand config r).2.drafts
  | .publish d | .handle d => d.drafts
  | _ => []

namespace Session

/-- The kinds and payloads of which an action tries to make events. -/
def Action.drafts (config : Config) : Action → List Draft
  | .web step => step.drafts config
  | .send _ kind payload | .sendTo _ kind payload | .sendToStudents _ kind payload =>
    [(kind, payload)]
  | _ => []

/-- What goes on by itself brings no events to the hub. -/
theorem effect_brings (s : Session) (m : Move) : ∀ x ∈ s.effect m, x.brings = [] := by
  rcases s.effect_cases m with ⟨hstopped, -⟩ | hinternal
  · simp [hstopped, Hub.Happening.brings]
  · exact fun x hx => Hub.brings_of_internal (hinternal x hx)

/-- Every event that is brought in a course was made of one of these drafts. -/
def Imports (drafts : List Draft) (course : List Hub.Happening) : Prop :=
  ∀ x ∈ course, ∀ e ∈ x.brings, e.MadeOf drafts

variable {s : Session} {drafts : List Draft}

theorem imports_of_internal {course : List Hub.Happening}
    (h : ∀ x ∈ course, x.isInternal = true) : Imports drafts course := by
  intro x hx e he
  rw [Hub.brings_of_internal (h x hx)] at he
  cases he

theorem imports_append {first rest : List Hub.Happening} :
    Imports drafts (first ++ rest) ↔ Imports drafts first ∧ Imports drafts rest := by
  simp only [Imports, List.forall_mem_append]

theorem imports_cons {x : Hub.Happening} {rest : List Hub.Happening} (hx : x.brings = []) :
    Imports drafts (x :: rest) ↔ Imports drafts rest := by
  simp [Imports, hx]

theorem imports_settling (s : Session) : Imports drafts s.settling := by
  have hall (moves : List Move) (s : Session) : Imports drafts (s.effects moves) := by
    induction moves generalizing s with
    | nil => exact List.forall_mem_nil _
    | cons m rest ih =>
      refine imports_append.mpr ⟨fun x hx e he => ?_, ih _⟩
      rw [effect_brings s m x hx] at he
      cases he
  exact hall _ _

theorem imports_statsCourse (s : Session) : Imports drafts s.statsCourse := by
  rw [statsCourse, List.cons_append, imports_cons rfl, imports_append]
  exact ⟨imports_settling _, imports_of_internal (by simp [Hub.Happening.isInternal])⟩

theorem imports_handleCourse (d : DomainEvent) : Imports d.drafts (handleCourse d) := by
  rw [handleCourse, imports_append, Hub.leaving, imports_cons rfl, imports_cons rfl]
  refine ⟨fun x hx e he => ?_, List.forall_mem_nil _⟩
  simp only [Hub.handing, Hub.doings, List.map_map, List.mem_map, Function.comp_apply] at hx
  obtain ⟨m, hm, rfl⟩ := hx
  rw [List.mem_singleton.mp he]
  exact DomainEvent.madeOf_plan hm

theorem imports_publishCourse (d : DomainEvent) : Imports d.drafts (publishCourse d) :=
  (imports_cons rfl).mpr (imports_handleCourse d)

theorem imports_builtCourse {kind payload : String} {act : Event → Hub.Act}
    (hact : ∀ e, (Hub.Happening.act (act e)).brings = [e]) :
    Imports [(kind, payload)] (builtCourse kind payload act) := by
  unfold builtCourse
  split
  · rename_i e he
    intro x hx e' he'
    rw [List.mem_singleton.mp hx, hact, List.mem_singleton] at he'
    exact he' ▸ Event.madeOf_of_build he (List.mem_singleton_self _)
  · exact List.forall_mem_nil _

theorem imports_errand (e : Web.Errand) (kept : Bool) : Imports e.drafts (e.course s kept) := by
  cases e with
  | nothing => exact List.forall_mem_nil _
  | upgrade student => exact List.forall_mem_nil _
  | publish d => exact imports_publishCourse d
  | figures => exact imports_statsCourse s
  | stream a =>
    cases kept <;> simp [Web.Errand.course, Imports, Hub.Happening.brings, Hub.doings]

theorem imports_web (config : Config) (s : Session) (step : Web.Step) :
    Imports (step.drafts config) (Web.course config s step) := by
  cases step with
  | http r kept => exact (imports_cons rfl).mpr (imports_errand _ _)
  | connect r failure =>
    refine (imports_cons rfl).mpr ?_
    simp only [Web.Step.drafts]
    cases (Web.errand config r).2 with
    | upgrade student =>
      cases failure <;> simp [Web.Errand.connectCourse, Imports, Hub.Happening.brings]
    | nothing | stream | publish | figures =>
      exact imports_errand (s := s.logAll (Web.errand config r).1) _ false
  | greet i =>
    simp only [Web.course]
    split <;> simp [Imports, Hub.Happening.brings]
  | read i limit => exact imports_of_internal (s.readCourse_internal i limit)
  | drop i => exact imports_of_internal (s.closeCourse_internal i)
  | publish d => exact imports_publishCourse d
  | handle d => exact imports_handleCourse d
  | advance ms => exact imports_settling _
  | move m =>
    simp only [Web.course]
    split
    · exact List.forall_mem_nil _
    · intro x hx e he
      rw [effect_brings s m x hx] at he
      cases he
  | settle => exact imports_settling s
  | _ => exact List.forall_mem_nil _

/-- What an action brings to the hub was made of its drafts. -/
theorem imports_course (config : Config) (s : Session) (action : Action) :
    Imports (action.drafts config) (s.course config action) := by
  cases action with
  | web step => exact imports_web config s step
  | send scope kind payload => exact imports_builtCourse fun _ => rfl
  | sendTo audiences kind payload => exact imports_builtCourse fun _ => rfl
  | sendToStudents students kind payload => exact imports_builtCourse fun _ => rfl
  | stats => exact imports_statsCourse s
  | receive c limit =>
    simp only [course, receiveCourse]
    split
    · exact List.forall_mem_nil _
    · refine imports_of_internal (Hub.internal_doings fun act hact => ?_)
      rw [(List.mem_replicate.mp hact).2]
      rfl
  | dropGuard i =>
    simp only [course, dropGuardCourse]
    split <;> simp [Imports, Hub.Happening.brings]
  | cutOff i =>
    intro x hx e he
    rw [effect_brings s (.cancel i) x hx] at he
    cases he
  | register a => simp [Imports, course, Hub.Happening.brings]
  | _ => exact imports_of_internal (by simp [course, Hub.Happening.isInternal])

end Session
end LiveUpdate
