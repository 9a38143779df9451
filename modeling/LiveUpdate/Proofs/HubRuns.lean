import LiveUpdate.Proofs.HubOrder

/-! Runs of the hub: commands are submitted, the control loop applies them, and receivers take from
their mailboxes, in any order. -/
namespace LiveUpdate.Hub

/-- What can happen to a hub whose loop is there. A broadcast is a message of that scope. -/
inductive Act
  | register (a : Audience)
  | unregister (c : ConnectionId)
  | send (m : Message)
  | sendTo (audiences : List Audience) (e : Event)
  | sendToStudents (students : List StudentId) (e : Event)
  | askStats
  /-- The loop applies the oldest pending command. -/
  | step
  | take (c : ConnectionId)
  | refuseMore (c : ConnectionId)
  | abandon (c : ConnectionId)
  deriving DecidableEq, Repr

/-- What a run shows: the commands in the order of their application, and what the receivers do
meanwhile. -/
inductive Moment
  | applied (command : Command)
  | taken (c : ConnectionId)
  | refused (c : ConnectionId)
  | abandoned (c : ConnectionId)
  deriving DecidableEq, Repr

def Moment.command? : Moment → Option Command
  | applied command => some command
  | _ => none

variable {hub : Hub}

def perform (hub : Hub) : Act → Hub
  | .register a => (hub.register a).2
  | .unregister c => hub.unregister c
  | .send m => hub.send m
  | .sendTo audiences e => hub.sendTo audiences e
  | .sendToStudents students e => hub.sendToStudents students e
  | .askStats => hub.askStats.2
  | .step => hub.step
  | .take c => hub.updateMailbox c fun box => box.take.2
  | .refuseMore c => hub.updateMailbox c Mailbox.refuseMore
  | .abandon c => hub.updateMailbox c Mailbox.abandon

def run (hub : Hub) (acts : List Act) : Hub := acts.foldl perform hub

/-- The commands that an act submits. -/
def submitted (hub : Hub) : Act → List Command
  | .register a => [.register ⟨hub.nextConnection⟩ a]
  | .unregister c => [.unregister c]
  | .send m => [.send m]
  | .sendTo audiences e => if audiences = [] then [] else [.send ⟨.only audiences, e⟩]
  | .sendToStudents students e =>
    if students = [] then [] else [.send ⟨.only (students.map .student), e⟩]
  | .askStats => [.stats hub.nextTicket]
  | _ => []

def moment? (hub : Hub) : Act → Option Moment
  | .step => hub.pending.head?.map .applied
  | .take c => some (.taken c)
  | .refuseMore c => some (.refused c)
  | .abandon c => some (.abandoned c)
  | _ => none

/-- What a receiver is handed by an act. -/
def receipt (hub : Hub) (c : ConnectionId) : Act → List Event
  | .take c' => if c' = c then ((hub.mailbox? c).bind fun box => box.take.1).toList else []
  | _ => []

/-- What every act of a run yields, given what it yields in the state that it meets. -/
def gather {α : Type} (f : Hub → Act → List α) : Hub → List Act → List α
  | _, [] => []
  | hub, act :: rest => f hub act ++ gather f (hub.perform act) rest

def submissions (hub : Hub) (acts : List Act) : List Command := gather submitted hub acts

def history (hub : Hub) (acts : List Act) : List Moment :=
  gather (fun hub act => (hub.moment? act).toList) hub acts

/-- What a receiver is handed in a run. -/
def receipts (hub : Hub) (c : ConnectionId) (acts : List Act) : List Event :=
  gather (fun hub => hub.receipt c) hub acts

/-! ### Steps -/

@[simp] theorem step_running : hub.step.running = hub.running := by
  cases hp : hub.pending with
  | nil => rw [step_nil hp]
  | cons command rest =>
    rw [step_cons hp, apply_running]
    rfl

@[simp] theorem step_capacity : hub.step.capacity = hub.capacity := by
  cases hp : hub.pending with
  | nil => rw [step_nil hp]
  | cons command rest =>
    rw [step_cons hp, apply_capacity]
    rfl

theorem sendTo_frame (hub : Hub) (audiences : List Audience) (e : Event) :
    ∃ pending journal, hub.sendTo audiences e = { hub with pending, journal } := by
  rw [sendTo]
  split
  · exact ⟨_, _, rfl⟩
  · exact hub.submit_frame _

@[simp] theorem sendTo_mailbox? (audiences : List Audience) (e : Event) (c : ConnectionId) :
    (hub.sendTo audiences e).mailbox? c = hub.mailbox? c := by
  obtain ⟨_, _, h⟩ := hub.sendTo_frame audiences e
  rw [h, mailbox?, mailbox?]

/-- Only a step changes the table, the counters or what is filed. -/
theorem perform_frame {act : Act} (h : act ≠ .step) :
    ∃ pending mailboxes nextConnection nextTicket journal, hub.perform act =
      { hub with pending, mailboxes, nextConnection, nextTicket, journal } := by
  cases act with
  | register a =>
    obtain ⟨_, _, hframe⟩ := hub.opened.submit_frame (.register ⟨hub.nextConnection⟩ a)
    exact ⟨_, _, _, _, _, hframe⟩
  | unregister c =>
    obtain ⟨_, _, hframe⟩ := hub.submit_frame (.unregister c)
    exact ⟨_, _, _, _, _, hframe⟩
  | send m =>
    obtain ⟨_, _, hframe⟩ := hub.submit_frame (.send m)
    exact ⟨_, _, _, _, _, hframe⟩
  | sendTo audiences e =>
    obtain ⟨_, _, hframe⟩ := hub.sendTo_frame audiences e
    exact ⟨_, _, _, _, _, hframe⟩
  | sendToStudents students e =>
    obtain ⟨_, _, hframe⟩ := hub.sendTo_frame (students.map .student) e
    exact ⟨_, _, _, _, _, hframe⟩
  | askStats =>
    obtain ⟨_, _, hframe⟩ :=
      { hub with nextTicket := hub.nextTicket + 1 : Hub }.submit_frame (.stats hub.nextTicket)
    exact ⟨_, _, _, _, _, hframe⟩
  | step => exact absurd rfl h
  | _ => exact ⟨_, _, _, _, _, rfl⟩

@[simp] theorem perform_running (act : Act) : (hub.perform act).running = hub.running := by
  by_cases hstep : act = .step
  · rw [hstep]
    exact step_running
  · obtain ⟨_, _, _, _, _, hframe⟩ := hub.perform_frame hstep
    rw [hframe]

@[simp] theorem perform_capacity (act : Act) : (hub.perform act).capacity = hub.capacity := by
  by_cases hstep : act = .step
  · rw [hstep]
    exact step_capacity
  · obtain ⟨_, _, _, _, _, hframe⟩ := hub.perform_frame hstep
    rw [hframe]

theorem Orderly.perform (h : hub.Orderly) (act : Act) : (hub.perform act).Orderly := by
  cases act with
  | register a => exact h.register a
  | unregister c => exact h.submit rfl
  | send m => exact h.submit rfl
  | sendTo audiences e =>
    simp only [Hub.perform, Hub.sendTo]
    split
    · exact h.log _
    · exact h.submit rfl
  | sendToStudents students e =>
    simp only [Hub.perform, Hub.sendToStudents, Hub.sendTo]
    split
    · exact h.log _
    · exact h.submit rfl
  | askStats =>
    have ht : { hub with nextTicket := hub.nextTicket + 1 }.Orderly :=
      h.of_eq rfl rfl (fun _ => rfl) (Nat.le_refl _)
    exact ht.submit rfl
  | step => exact h.step
  | take c => exact h.updateMailbox fun box _ => box.take_attached
  | refuseMore c => exact h.updateMailbox fun box _ => box.refuseMore_attached
  | abandon c => exact h.updateMailbox fun _ _ => rfl

theorem Orderly.run (h : hub.Orderly) (acts : List Act) : (hub.run acts).Orderly := by
  induction acts generalizing hub with
  | nil => exact h
  | cons act rest ih => exact ih (h.perform act)

theorem run_running (acts : List Act) : (hub.run acts).running = hub.running := by
  induction acts generalizing hub with
  | nil => rfl
  | cons act rest ih => exact (@ih (hub.perform act)).trans (perform_running act)

theorem run_capacity (acts : List Act) : (hub.run acts).capacity = hub.capacity := by
  induction acts generalizing hub with
  | nil => rfl
  | cons act rest ih => exact (@ih (hub.perform act)).trans (perform_capacity act)

/-- What an act submits joins what is pending, and only the loop takes anything away. -/
theorem perform_pending (hr : hub.running = true) (act : Act) :
    hub.pending ++ hub.submitted act =
      ((hub.moment? act).toList.filterMap Moment.command?) ++ (hub.perform act).pending := by
  cases act with
  | step =>
    cases hp : hub.pending with
    | nil => simp [moment?, perform, step_nil hp, hp, submitted]
    | cons command rest =>
      simp [moment?, perform, step_cons hp, hp, submitted, Moment.command?, popped]
  | sendTo audiences e =>
    simp only [perform, sendTo, submitted]
    split <;> simp [moment?, send, submit, hr, log]
  | sendToStudents students e =>
    simp only [perform, sendToStudents, sendTo, submitted, List.map_eq_nil_iff]
    split <;> simp [moment?, send, submit, hr, log]
  | register a => simp [moment?, perform, register, freshConnection, submit, hr, submitted]
  | unregister c => simp [moment?, perform, unregister, submit, hr, submitted]
  | send m => simp [moment?, perform, send, submit, hr, submitted]
  | askStats => simp [moment?, perform, askStats, submit, hr, submitted]
  | take c => simp [moment?, perform, updateMailbox, submitted, Moment.command?]
  | refuseMore c => simp [moment?, perform, updateMailbox, submitted, Moment.command?]
  | abandon c => simp [moment?, perform, updateMailbox, submitted, Moment.command?]

/-- The loop applies what is submitted in the order of submission and leaves nothing out. -/
theorem applied_append_pending (hr : hub.running = true) (acts : List Act) :
    hub.pending ++ hub.submissions acts =
      (hub.history acts).filterMap Moment.command? ++ (hub.run acts).pending := by
  induction acts generalizing hub with
  | nil => simp [submissions, history, gather, run]
  | cons act rest ih =>
    have hstep := perform_pending hr act
    have hrest := ih ((perform_running act).trans hr)
    simp only [submissions, history, gather, List.filterMap_append] at hrest ⊢
    rw [← List.append_assoc, hstep, List.append_assoc, hrest, List.append_assoc]
    rfl

end LiveUpdate.Hub
