import LiveUpdate.Proofs.Happenings

/-! What a course of happenings comes to at the hub. The loop applies what is submitted in the order
of submission, and a receiver takes what was put into its mailbox in the order in which it was put
there. Neither the end of the loop nor anything else loses a command or an event on the way. -/
namespace LiveUpdate.Hub

variable {hub : Hub} {c : ConnectionId}

/-! ### What happenings yield -/

/-- What every happening of a course yields, given what it yields in the state that it meets. -/
def glean {α : Type} (f : Hub → Happening → List α) : Hub → List Happening → List α
  | _, [] => []
  | hub, x :: rest => f hub x ++ glean f (hub.happen x) rest

section

variable {α : Type} (f : Hub → Happening → List α)

@[simp] theorem glean_nil : glean f hub [] = [] := rfl

@[simp] theorem glean_cons (x : Happening) (rest : List Happening) :
    glean f hub (x :: rest) = f hub x ++ glean f (hub.happen x) rest := rfl

@[simp] theorem glean_append (first rest : List Happening) :
    glean f hub (first ++ rest) = glean f hub first ++ glean f (hub.undergo first) rest := by
  induction first generalizing hub with
  | nil => rfl
  | cons x first ih => simp [ih]

/-- What no happening of a course yields, in a state of a kind that lasts, the course does not
yield. -/
theorem glean_eq_nil_of_keeps {P : Hub → Prop} {course : List Happening} (h : P hub)
    (hkeeps : ∀ hub, P hub → ∀ x, P (hub.happen x))
    (hf : ∀ hub, P hub → ∀ x ∈ course, f hub x = []) : glean f hub course = [] := by
  induction course generalizing hub with
  | nil => rfl
  | cons x rest ih =>
    rw [glean_cons, hf hub h x List.mem_cons_self, List.nil_append]
    exact ih (hkeeps hub h x) fun hub h y hy => hf hub h y (List.mem_cons_of_mem _ hy)

theorem glean_eq_nil {course : List Happening} (hf : ∀ x ∈ course, ∀ hub, f hub x = []) :
    glean f hub course = [] := by
  refine glean_eq_nil_of_keeps (P := fun _ => True) f trivial (fun _ _ _ => trivial) ?_
  exact fun hub _ x hx => hf x hx hub

end

namespace Happening

/-- The commands that a happening submits. -/
def submits (hub : Hub) : Happening → List Command
  | .act a => hub.submitted a
  | _ => []

/-- The command that the loop applies in a happening. -/
def applies (hub : Hub) : Happening → List Command
  | .act a => (hub.moment? a).toList.filterMap Moment.command?
  | _ => []

/-- What a happening puts into the mailbox of a connection. -/
def fills (hub : Hub) (c : ConnectionId) : Happening → List Event
  | .act a => hub.enqueuing c a
  | _ => []

/-- What a receiver is handed in a happening. -/
def empties (hub : Hub) (c : ConnectionId) : Happening → List Event
  | .act a => hub.receipt c a
  | _ => []

end Happening

/-- The commands that are submitted in a course, in order. -/
def submittedIn (hub : Hub) (course : List Happening) : List Command :=
  glean (fun hub x => x.submits hub) hub course

/-- The commands that the loop applies in a course, in order. -/
def appliedIn (hub : Hub) (course : List Happening) : List Command :=
  glean (fun hub x => x.applies hub) hub course

/-- What is put into the mailbox of a connection in a course, in order. -/
def enqueuedIn (hub : Hub) (c : ConnectionId) (course : List Happening) : List Event :=
  glean (fun hub x => x.fills hub c) hub course

/-- What the receiver of a connection is handed in a course, in order. -/
def receivedIn (hub : Hub) (c : ConnectionId) (course : List Happening) : List Event :=
  glean (fun hub x => x.empties hub c) hub course

/-! ### The loop -/

theorem happen_running {x : Happening} (hx : x ≠ .stopped) :
    (hub.happen x).running = hub.running := by
  cases x with
  | act act => exact perform_running act
  | stopped => exact absurd rfl hx
  | _ => rfl

theorem undergo_running {course : List Happening} (h : .stopped ∉ course) :
    (hub.undergo course).running = hub.running := by
  induction course generalizing hub with
  | nil => rfl
  | cons x rest ih =>
    obtain ⟨hx, hrest⟩ := List.ne_and_not_mem_of_not_mem_cons h
    exact (ih hrest).trans (happen_running fun he => hx he.symm)

/-- A hub whose loop has ended in order: nothing is pending, and the table is empty. -/
def IsDone (hub : Hub) : Prop :=
  hub.running = false ∧ hub.pending = [] ∧ hub.registry = .empty

theorem IsDone.running (h : hub.IsDone) : hub.running = false := h.1

theorem IsDone.pending (h : hub.IsDone) : hub.pending = [] := h.2.1

theorem IsDone.registry (h : hub.IsDone) : hub.registry = .empty := h.2.2

theorem IsDone.submit (h : hub.IsDone) (command : Command) : (hub.submit command).IsDone := by
  have hsubmit : hub.submit command = hub.log .discarded := by simp [Hub.submit, h.running]
  rw [hsubmit]
  exact h

theorem IsDone.happen (h : hub.IsDone) (x : Happening) : (hub.happen x).IsDone := by
  have hsendTo (audiences : List Audience) (e : Event) : (hub.sendTo audiences e).IsDone := by
    rw [sendTo]
    split
    · exact h
    · exact h.submit _
  cases x with
  | act act =>
    cases act with
    | register a =>
      have hopened : hub.opened.IsDone := h
      exact hopened.submit _
    | unregister c => exact h.submit _
    | send m => exact h.submit _
    | sendTo audiences e => exact hsendTo audiences e
    | sendToStudents students e => exact hsendTo _ e
    | askStats =>
      have hasked : { hub with nextTicket := hub.nextTicket + 1 }.IsDone := h
      exact hasked.submit _
    | step =>
      have hsame : hub.step = hub := step_nil h.pending
      show hub.step.IsDone
      rw [hsame]
      exact h
    | take c => exact h
    | refuseMore c => exact h
    | abandon c => exact h
  | noted entries => exact h
  | numbered => exact h
  | fetched ticket => exact h
  | stopped => exact ⟨rfl, rfl, rfl⟩

theorem IsDone.undergo (h : hub.IsDone) (course : List Happening) : (hub.undergo course).IsDone := by
  induction course generalizing hub with
  | nil => exact h
  | cons x rest ih => exact ih (h.happen x)

/-- With the table, all mailboxes are closed. -/
theorem IsDone.detached (h : hub.IsDone) (ho : hub.Orderly) {box : Mailbox}
    (hbox : hub.mailbox? c = some box) : box.attached = false := by
  refine Bool.eq_false_iff.mpr fun hattached => ?_
  have hkeeps : hub.keeps? c = some true := by simp [keeps?, hbox, hattached]
  rcases (ho.keeps_iff c).mp hkeeps with hawaited | hregistered
  · simp [awaited, h.pending] at hawaited
  · rw [h.registry] at hregistered
    cases hregistered

theorem isDone_stop (hub : Hub) : hub.stop.IsDone := ⟨rfl, rfl, rfl⟩

/-! ### Proper courses -/

/-- Commands are submitted only while the loop is there, and the loop ends only when it has nothing
left to do. -/
structure Permits (hub : Hub) (x : Happening) : Prop where
  submits : x.submits hub ≠ [] → hub.running = true
  stops : x = .stopped → hub.running = true ∧ hub.pending = []

/-- A course in which nothing is submitted in vain. -/
def Proper : Hub → List Happening → Prop
  | _, [] => True
  | hub, x :: rest => hub.Permits x ∧ Proper (hub.happen x) rest

theorem proper_append {first rest : List Happening} :
    hub.Proper (first ++ rest) ↔ hub.Proper first ∧ (hub.undergo first).Proper rest := by
  induction first generalizing hub with
  | nil => simp [Proper]
  | cons x first ih => simp only [List.cons_append, Proper, ih, undergo_cons, and_assoc]

/-- While the loop is there everything may be submitted. -/
theorem proper_of_running {course : List Happening} (hr : hub.running = true)
    (h : .stopped ∉ course) : hub.Proper course := by
  induction course generalizing hub with
  | nil => trivial
  | cons x rest ih =>
    obtain ⟨hx, hrest⟩ := List.ne_and_not_mem_of_not_mem_cons h
    have hrunning := (happen_running fun he => hx he.symm).trans hr
    exact ⟨⟨fun _ => hr, fun he => absurd he.symm hx⟩, ih hrunning hrest⟩

/-- Whether nothing is submitted in a happening, whatever the state of the hub. -/
def Happening.isSilent : Happening → Bool
  | .act .step | .act (.take _) | .act (.refuseMore _) | .act (.abandon _)
  | .noted _ | .numbered | .fetched _ => true
  | _ => false

theorem Happening.submits_of_silent {x : Happening} (h : x.isSilent = true) (hub : Hub) :
    x.submits hub = [] := by
  cases x with
  | act act => cases act <;> first | rfl | cases h
  | stopped => cases h
  | _ => rfl

theorem Happening.ne_stopped_of_silent {x : Happening} (h : x.isSilent = true) : x ≠ .stopped := by
  rintro rfl
  cases h

theorem proper_of_silent {course : List Happening} (h : ∀ x ∈ course, x.isSilent = true) :
    hub.Proper course := by
  induction course generalizing hub with
  | nil => trivial
  | cons x rest ih =>
    have hx := h x List.mem_cons_self
    refine ⟨⟨fun hne => absurd (x.submits_of_silent hx hub) hne, fun he => ?_⟩,
      ih fun y hy => h y (List.mem_cons_of_mem _ hy)⟩
    exact absurd he (Happening.ne_stopped_of_silent hx)

theorem submittedIn_of_silent {course : List Happening}
    (h : ∀ x ∈ course, x.isSilent = true ∨ x = .stopped) : hub.submittedIn course = [] := by
  refine glean_eq_nil _ fun x hx hub => ?_
  rcases h x hx with hsilent | rfl
  · exact x.submits_of_silent hsilent hub
  · rfl

/-- What an act submits joins what is pending, and only the loop takes anything away, also when
there is no loop and nothing is submitted. -/
theorem perform_pending_of_permitted {act : Act} (h : hub.submitted act ≠ [] → hub.running = true) :
    hub.pending ++ hub.submitted act =
      (hub.moment? act).toList.filterMap Moment.command? ++ (hub.perform act).pending := by
  by_cases hnone : hub.submitted act = []
  · rw [hnone, List.append_nil]
    cases act with
    | step =>
      cases hp : hub.pending with
      | nil => simp [moment?, perform, step_nil hp, hp]
      | cons command rest =>
        simp [moment?, perform, step_cons hp, hp, Moment.command?, popped]
    | sendTo audiences e =>
      have hempty : audiences = [] := by
        by_contra hne
        simp [submitted, hne] at hnone
      simp [moment?, perform, sendTo, hempty, log]
    | sendToStudents students e =>
      have hempty : students = [] := by
        by_contra hne
        simp [submitted, hne] at hnone
      simp [moment?, perform, sendToStudents, sendTo, hempty, log]
    | take c => simp [moment?, perform, updateMailbox, Moment.command?]
    | refuseMore c => simp [moment?, perform, updateMailbox, Moment.command?]
    | abandon c => simp [moment?, perform, updateMailbox, Moment.command?]
    | _ => cases hnone
  · exact perform_pending (h hnone) act

theorem happen_pending {x : Happening} (h : hub.Permits x) :
    hub.pending ++ x.submits hub = x.applies hub ++ (hub.happen x).pending := by
  cases x with
  | act act => exact perform_pending_of_permitted h.submits
  | stopped =>
    rw [(h.stops rfl).2]
    rfl
  | _ => exact List.append_nil _

/-- What is submitted in a proper course is applied in the order of submission, up to what is still
pending. -/
theorem undergo_pending {course : List Happening} (h : hub.Proper course) :
    hub.pending ++ hub.submittedIn course =
      hub.appliedIn course ++ (hub.undergo course).pending := by
  induction course generalizing hub with
  | nil => exact List.append_nil _
  | cons x rest ih =>
    have hfirst := happen_pending h.1
    have hrest := ih h.2
    simp only [submittedIn, appliedIn, glean_cons, undergo_cons] at hrest ⊢
    rw [← List.append_assoc, hfirst, List.append_assoc, hrest, List.append_assoc]

/-- Nothing is submitted any more once the loop has ended. -/
theorem submittedIn_of_done {course : List Happening} (h : hub.Proper course) (hd : hub.IsDone) :
    hub.submittedIn course = [] := by
  induction course generalizing hub with
  | nil => rfl
  | cons x rest ih =>
    have hfirst : x.submits hub = [] := by
      by_contra hne
      have hrunning := h.1.submits hne
      rw [hd.running] at hrunning
      cases hrunning
    have hrest := ih h.2 (hd.happen x)
    simp only [submittedIn, glean_cons, hfirst, List.nil_append] at hrest ⊢
    exact hrest

/-- The loop ends once at most, when everything submitted until then has been applied. -/
theorem Proper.stopped {course first rest : List Happening} (h : hub.Proper course)
    (hcourse : course = first ++ .stopped :: rest) :
    hub.pending ++ hub.submittedIn course = hub.appliedIn first ∧ .stopped ∉ rest := by
  subst hcourse
  obtain ⟨hfirst, hstop, hrest⟩ := proper_append.mp h
  have hpending := undergo_pending hfirst
  rw [(hstop.stops rfl).2, List.append_nil] at hpending
  have hdone := (hub.undergo first).isDone_stop
  have hafter := submittedIn_of_done hrest hdone
  constructor
  · rw [← hpending]
    simp only [submittedIn, glean_append, glean_cons] at hafter ⊢
    have hnone : Happening.submits (hub.undergo first) .stopped = [] := rfl
    have hmore : glean (fun hub x => x.submits hub) ((hub.undergo first).happen .stopped) rest = [] :=
      hafter
    rw [hnone, hmore, List.append_nil, List.append_nil]
  · intro hmem
    obtain ⟨before, after, rfl⟩ := List.append_of_mem hmem
    obtain ⟨-, hagain, -⟩ := proper_append.mp hrest
    have hended : (((hub.undergo first).happen .stopped).undergo before).running = false :=
      (hdone.undergo before).running
    have hrunning := (hagain.stops rfl).1
    rw [hended] at hrunning
    cases hrunning

/-! ### Mailboxes -/

theorem Orderly.stop (h : hub.Orderly) : hub.stop.Orderly where
  indexed := Registry.indexed_empty
  keeps_iff c := by
    have hnot : hub.stop.keeps? c ≠ some true := by
      simp only [keeps?, mailbox?, Hub.stop, halt, Table.get?_mapValues, Option.map_map]
      cases (hub.log (.stopped hub.registry.connectionCount)).mailboxes.get? c <;>
        simp [Mailbox.detach]
    exact ⟨fun he => absurd he hnot, fun he => by simp [awaited, Hub.stop, halt] at he⟩
  awaited_nodup := List.nodup_nil
  awaited_absent _ hc := absurd hc List.not_mem_nil
  known c hc := by
    refine h.known c ?_
    simpa [keeps?, mailbox?, Hub.stop, halt, Hub.log] using hc

theorem Orderly.happen (h : hub.Orderly) (x : Happening) : (hub.happen x).Orderly := by
  cases x with
  | act act => exact h.perform act
  | noted entries => exact h.logAll entries
  | numbered => exact h.of_eq rfl rfl (fun _ => rfl) (Nat.le_succ _)
  | fetched ticket => exact h.of_eq rfl rfl (fun _ => rfl) (Nat.le_refl _)
  | stopped => exact h.stop

theorem Orderly.undergo (h : hub.Orderly) (course : List Happening) :
    (hub.undergo course).Orderly := by
  induction course generalizing hub with
  | nil => exact h
  | cons x rest ih => exact ih (h.happen x)

/-- What waits for the receiver of a connection. -/
def waitingFor (hub : Hub) (c : ConnectionId) : List Event :=
  ((hub.mailbox? c).map Mailbox.waiting).getD []

/-- The receiver of a connection is gone. -/
def Deserted (hub : Hub) (c : ConnectionId) : Prop :=
  ∃ box, hub.mailbox? c = some box ∧ box.intake = .gone

theorem waitingFor_of_mailbox {box : Mailbox} (h : hub.mailbox? c = some box) :
    hub.waitingFor c = box.waiting := by
  simp [waitingFor, h]

theorem waitingFor_of_absent (h : hub.mailbox? c = none) : hub.waitingFor c = [] := by
  simp [waitingFor, h]

theorem enqueuing_of_absent (h : hub.mailbox? c = none) (act : Act) : hub.enqueuing c act = [] := by
  cases act with
  | step => simp [enqueuing, h]
  | _ => rfl

theorem receipt_of_other {act : Act} (h : act.receiver? ≠ some c) : hub.receipt c act = [] := by
  cases act with
  | take c' => exact if_neg fun he => h (congrArg some he)
  | _ => rfl

/-- A mailbox that comes to be is empty. -/
theorem Orderly.waitingFor_perform_of_absent (h : hub.Orderly) (hbox : hub.mailbox? c = none)
    (act : Act) : (hub.perform act).waitingFor c = [] := by
  have hsame {hub' : Hub} (hbox' : hub'.mailbox? c = hub.mailbox? c) : hub'.waitingFor c = [] :=
    waitingFor_of_absent (hbox'.trans hbox)
  have hupdate (c' : ConnectionId) (f : Mailbox → Mailbox) :
      (hub.updateMailbox c' f).waitingFor c = [] := by
    refine waitingFor_of_absent ?_
    simp only [mailbox?, Hub.updateMailbox, Table.get?_modify] at hbox ⊢
    split
    · rw [hbox]
      rfl
    · exact hbox
  cases act with
  | register a =>
    rw [Hub.perform, register_eq]
    simp only [waitingFor, submit_mailbox?]
    simp only [mailbox?, opened, Table.get?_insert] at hbox ⊢
    split
    · split <;> rfl
    · rw [hbox]
      rfl
  | unregister c' => exact hsame (submit_mailbox? _ c)
  | send m => exact hsame (submit_mailbox? _ c)
  | sendTo audiences e => exact hsame (sendTo_mailbox? audiences e c)
  | sendToStudents students e => exact hsame (sendTo_mailbox? _ e c)
  | askStats => exact hsame (submit_mailbox? _ c)
  | step =>
    cases hbox' : hub.step.mailbox? c with
    | none => exact waitingFor_of_absent hbox'
    | some box' =>
      obtain ⟨box, hold, -⟩ := mailbox?_step h hbox'
      rw [hbox] at hold
      cases hold
  | take c' => exact hupdate c' _
  | refuseMore c' => exact hupdate c' _
  | abandon c' => exact hupdate c' _

/-- What an act hands to a receiver stood first, and what it puts into the mailbox stands last. -/
theorem Orderly.waitingFor_perform (h : hub.Orderly) {act : Act} (hkept : act ≠ .abandon c) :
    hub.receipt c act ++ (hub.perform act).waitingFor c =
      hub.waitingFor c ++ hub.enqueuing c act := by
  cases hbox : hub.mailbox? c with
  | none =>
    have hnone : hub.receipt c act = [] := by
      cases act with
      | take c' => simp [receipt, hbox]
      | _ => rfl
    rw [hnone, h.waitingFor_perform_of_absent hbox act, waitingFor_of_absent hbox,
      enqueuing_of_absent hbox]
  | some box =>
    by_cases hact : act.receiver? = some c
    · have hafter : (hub.perform act).mailbox? c = some (act.onBox box) := by
        rw [perform_own hact hbox]
        exact mailbox?_updateMailbox_own hbox _
      rw [waitingFor_of_mailbox hafter, waitingFor_of_mailbox hbox]
      cases act with
      | take c' =>
        obtain rfl : c' = c := Option.some.inj hact
        simp only [receipt, if_true, hbox, Option.bind_some, enqueuing, List.append_nil, Act.onBox,
          Mailbox.take]
        cases hw : box.waiting <;> simp [hw]
      | refuseMore c' =>
        have hwaiting : box.refuseMore.waiting = box.waiting := by
          unfold Mailbox.refuseMore
          split <;> rfl
        simp [receipt, enqueuing, Act.onBox, hwaiting]
      | abandon c' => exact absurd (congrArg Act.abandon (Option.some.inj hact)) hkept
      | _ => cases hact
    · obtain ⟨box', hbox', -, hwaiting⟩ := mailbox?_perform h hact hbox
      rw [receipt_of_other hact, waitingFor_of_mailbox hbox', waitingFor_of_mailbox hbox,
        List.nil_append, hwaiting]

/-- A receiver that is gone does not come back. -/
theorem Orderly.deserted_happen (h : hub.Orderly) (hgone : hub.Deserted c) (x : Happening) :
    (hub.happen x).Deserted c := by
  obtain ⟨box, hbox, hintake⟩ := hgone
  cases x with
  | act act =>
    by_cases hact : act.receiver? = some c
    · refine ⟨act.onBox box, ?_, ?_⟩
      · show (hub.perform act).mailbox? c = _
        rw [perform_own hact hbox]
        exact mailbox?_updateMailbox_own hbox _
      · cases act with
        | take c' =>
          simp only [Act.onBox, Mailbox.take]
          split <;> exact hintake
        | refuseMore c' => simp [Act.onBox, Mailbox.refuseMore, hintake]
        | abandon c' => rfl
        | _ => exact hintake
    · obtain ⟨box', hbox', hsame, -⟩ := mailbox?_perform h hact hbox
      exact ⟨box', hbox', hsame.trans hintake⟩
  | stopped =>
    refine ⟨box.detach, ?_, hintake⟩
    have hbox₀ : hub.mailboxes.get? c = some box := hbox
    simp [Hub.happen, Hub.stop, halt, Hub.log, mailbox?, hbox₀]
  | _ => exact ⟨box, hbox, hintake⟩

theorem Orderly.deserted_undergo (h : hub.Orderly) (hgone : hub.Deserted c)
    (course : List Happening) : (hub.undergo course).Deserted c := by
  induction course generalizing hub with
  | nil => exact hgone
  | cons x rest ih => exact ih (h.happen x) (h.deserted_happen hgone x)

theorem Orderly.waitingFor_happen (h : hub.Orderly) {x : Happening}
    (hkept : x ≠ .act (.abandon c)) :
    x.empties hub c ++ (hub.happen x).waitingFor c = hub.waitingFor c ++ x.fills hub c := by
  cases x with
  | act act => exact h.waitingFor_perform fun he => hkept (congrArg Happening.act he)
  | stopped =>
    refine Eq.trans ?_ (List.append_nil _).symm
    simp only [Happening.empties, List.nil_append, waitingFor, Hub.happen, mailbox?, Hub.stop, halt,
      Table.get?_mapValues, Option.map_map]
    rfl
  | _ => exact (List.append_nil _).symm

/-- With its receiver goes what waits in a mailbox. -/
theorem waitingFor_abandon (hub : Hub) (c : ConnectionId) :
    (hub.happen (.act (.abandon c))).waitingFor c = [] := by
  cases hbox : hub.mailbox? c with
  | none =>
    have hnone : hub.mailboxes.get? c = none := hbox
    simp [waitingFor, mailbox?, happen, perform, updateMailbox, hnone]
  | some box => exact waitingFor_of_mailbox (mailbox?_updateMailbox_own hbox Mailbox.abandon)

/-- A receiver that is still there afterwards has not let go of a mailbox with anything in it. -/
theorem Orderly.waitingFor_happen_of_there (h : hub.Orderly) {x : Happening}
    (hthere : ¬ (hub.happen x).Deserted c) :
    x.empties hub c ++ (hub.happen x).waitingFor c = hub.waitingFor c ++ x.fills hub c := by
  by_cases hx : x = .act (.abandon c)
  · subst hx
    cases hbox : hub.mailbox? c with
    | none =>
      rw [waitingFor_abandon, waitingFor_of_absent hbox]
      rfl
    | some box => exact absurd ⟨_, mailbox?_updateMailbox_own hbox Mailbox.abandon, rfl⟩ hthere
  · exact h.waitingFor_happen hx

/-- As long as its receiver has not gone, all that was put into a mailbox was received or waits
there, in the order in which it was put there. -/
theorem Orderly.waitingFor_undergo (h : hub.Orderly) {course : List Happening}
    (hthere : ¬ (hub.undergo course).Deserted c) :
    hub.receivedIn c course ++ (hub.undergo course).waitingFor c =
      hub.waitingFor c ++ hub.enqueuedIn c course := by
  induction course generalizing hub with
  | nil => exact (List.append_nil _).symm
  | cons x rest ih =>
    have hnow : ¬ (hub.happen x).Deserted c := fun hgone =>
      hthere ((h.happen x).deserted_undergo hgone rest)
    have hfirst := h.waitingFor_happen_of_there hnow
    have hrest := ih (h.happen x) hthere
    simp only [receivedIn, enqueuedIn, glean_cons, undergo_cons] at hrest ⊢
    rw [List.append_assoc, hrest, ← List.append_assoc, hfirst, List.append_assoc]

end LiveUpdate.Hub
