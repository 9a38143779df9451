import LiveUpdate.Proofs.Departures
import LiveUpdate.Proofs.PairRules
import LiveUpdate.Proofs.Turns
import LiveUpdate.Session.Operation

/-! A pair of pumps tends one connection. Its moves, what arrives for it and what happens at the hub
come in any order, one atomic action at a time; nobody cuts the pair off. Whatever the encoder and
the transport do, the pair and its mailbox go on together. -/
namespace LiveUpdate

/-- What can happen to a pair of pumps, and at the hub beside it. -/
inductive Deed
  /-- Something at the hub in which the pair has no part. -/
  | hub (act : Hub.Act)
  | start
  | write
  | read
  | observeWriter
  | observeReader
  | arrive (frame : Inbound)
  | endInput
  /-- The transport begins or ceases to take frames. -/
  | setReady (ready : Bool)
  deriving DecidableEq, Repr

namespace Deed

/-- Whether the inbound side comes to its end: by a close frame, an error or the end of input. -/
def endsInput : Deed → Bool
  | arrive frame => frame.isTerminal
  | endInput => true
  | _ => false

/-- What a deed has for the hub alone. -/
def act? : Deed → Option Hub.Act
  | hub act => some act
  | _ => none

/-- Whose mailbox is read at, beside the pair. -/
def receiver? (deed : Deed) : Option ConnectionId := deed.act?.bind Hub.Act.receiver?

theorem eq_hub {deed : Deed} {act : Hub.Act} (h : deed.act? = some act) : deed = .hub act := by
  cases deed with
  | hub act' => exact congrArg hub (Option.some.inj h)
  | _ => cases h

end Deed

namespace Session

/-- A deed of the pair with this number, or beside it. -/
def conduct (i : Nat) (s : Session) : Deed → Session
  | .hub act => s.onHub (·.perform act)
  | .start => s.perform (.start i)
  | .write => s.perform (.write i)
  | .read => s.perform (.read i)
  | .observeWriter => s.perform (.observeWriter i)
  | .observeReader => s.perform (.observeReader i)
  | .arrive frame => (s.arrive i frame).2
  | .endInput => s.endInput i
  | .setReady ready => s.setReady i ready

def conductAll (i : Nat) (s : Session) (deeds : List Deed) : Session := deeds.foldl (conduct i) s

/-- What every deed yields, given what it yields in the session that it meets. -/
def recount {α : Type} (f : Session → Deed → List α) (i : Nat) : Session → List Deed → List α
  | _, [] => []
  | s, deed :: rest => f s deed ++ recount f i (s.conduct i deed) rest

/-- What a deed of the pair itself adds to the pending commands. -/
def tells (i : Nat) (s : Session) (deed : Deed) : List Command :=
  match deed.act? with
  | some _ => []
  | none => (s.conduct i deed).hub.pending.drop s.hub.pending.length

/-- The commands that the pair has submitted itself. -/
def told (i : Nat) (s : Session) (deeds : List Deed) : List Command := recount (tells i) i s deeds

def enqueuing (c : ConnectionId) (s : Session) (deed : Deed) : List Event :=
  match deed.act? with
  | some act => s.hub.enqueuing c act
  | none => []

/-- The events that the hub has put into the mailbox of a connection. -/
def enqueued (i : Nat) (c : ConnectionId) (s : Session) (deeds : List Deed) : List Event :=
  recount (enqueuing c) i s deeds

end Session

namespace Pair

/-- What a deed leaves of a pair and of its mailbox, what it tells the hub and what it reports. -/
structure Upshot where
  pair : Pair
  box : Mailbox
  commands : List Command
  entries : List Entry

/-- What a deed of the pair comes to. -/
def after (p : Pair) (box : Mailbox) : Deed → Upshot
  | .hub _ => ⟨p, box, [], []⟩
  | .start => ⟨p.start, box, [], []⟩
  | .write =>
    ⟨{ p with writer := (p.writer.step box).1 }, (p.writer.step box).2.1, [],
      (p.writer.step box).2.2⟩
  | .read => ⟨{ p with reader := p.reader.step.1 }, box, p.reader.step.2.1, p.reader.step.2.2⟩
  | .observeWriter => ⟨p.observeWriter.1, box, p.observeWriter.2.1, p.observeWriter.2.2⟩
  | .observeReader => ⟨p.observeReader.1, box, p.observeReader.2.1, p.observeReader.2.2⟩
  | .arrive frame => ⟨{ p with reader := p.reader.receive frame }, box, [], []⟩
  | .endInput => ⟨{ p with reader := p.reader.endInput }, box, [], []⟩
  | .setReady ready =>
    ⟨{ p with writer := { p.writer with sink := { p.writer.sink with ready } } }, box, [], []⟩

variable {p : Pair} {box : Mailbox}

/-- The supervisor learns of the end of its writer, unless there is nothing to learn. -/
theorem observeWriter_cases (p : Pair) : p.observeWriter = (p, [], []) ∨
    p.writer.outcome.isLive = false ∧ p.observeWriter.1.stage = .returned ∧
      p.observeWriter.1.writer = p.writer ∧
      (p.observeWriter.1.reader = p.reader ∨ p.observeWriter.1.reader = p.reader.cancel) ∧
      p.observeWriter.2.1 = [.unregister p.connection] := by
  unfold observeWriter
  split
  · rename_i hgo
    simp only [Bool.and_eq_true, Bool.not_eq_true'] at hgo
    refine Or.inr ⟨hgo.2, rfl, rfl, ?_, rfl⟩
    simp only []
    split
    · exact Or.inr rfl
    · exact Or.inl rfl
  · exact Or.inl rfl

theorem observeReader_cases (p : Pair) : p.observeReader.1.writer = p.writer ∧
    p.observeReader.1.reader = p.reader ∧ p.observeReader.2.1 = [] ∧
      (p.observeReader.1.stage = p.stage ∨ p.observeReader.1.stage = .draining) := by
  unfold observeReader
  split
  · exact ⟨rfl, rfl, rfl, Or.inr rfl⟩
  · exact ⟨rfl, rfl, rfl, Or.inl rfl⟩

theorem start_cases (p : Pair) : p.start = p ∨ p.start.stage = .watching ∧
    p.start.writer = { p.writer with outcome := p.writer.outcome.start } ∧
    p.start.reader = { p.reader with outcome := p.reader.outcome.start } := by
  unfold start
  split
  · exact Or.inr ⟨rfl, rfl, rfl⟩
  · exact Or.inl rfl

/-- Supervisor, writer and reader work for one connection, and leave the hub its end of the
mailbox; all that they tell the hub is that the connection goes. -/
theorem after_shared (h : p.reader.connection = p.connection) (box : Mailbox) (deed : Deed) :
    (p.after box deed).pair.connection = p.connection ∧
      (p.after box deed).pair.reader.connection = p.connection ∧
      (p.after box deed).box.attached = box.attached ∧
      ((p.after box deed).commands = [] ∨
        (p.after box deed).commands = [.unregister p.connection]) := by
  have hcancel (r : Reader) : r.cancel.connection = r.connection := by
    unfold Reader.cancel
    split <;> rfl
  cases deed with
  | hub act => exact ⟨rfl, h, rfl, Or.inl rfl⟩
  | start =>
    rcases p.start_cases with hstart | ⟨-, hw, hr⟩
    · rw [after, hstart]
      exact ⟨rfl, h, rfl, Or.inl rfl⟩
    · refine ⟨?_, ?_, rfl, Or.inl rfl⟩
      · rw [after, connection, hw]
        rfl
      · rw [after, hr]
        exact h
  | write => exact ⟨p.writer.step_connection box, h, p.writer.step_attached box, Or.inl rfl⟩
  | read =>
    obtain ⟨hc, -, hstep⟩ := p.reader.step_cases
    refine ⟨rfl, hc.trans h, rfl, ?_⟩
    rcases hstep with ⟨hnone, -⟩ | ⟨-, hone, -⟩
    · exact Or.inl hnone
    · exact Or.inr (hone.trans (by rw [h]))
  | observeWriter =>
    rcases p.observeWriter_cases with hidle | ⟨-, -, hw, hr, hcommands⟩
    · rw [after, hidle]
      exact ⟨rfl, h, rfl, Or.inl rfl⟩
    · refine ⟨?_, ?_, rfl, Or.inr hcommands⟩
      · rw [after, connection, hw]
        rfl
      · rcases hr with hr | hr
        · rw [after, hr]
          exact h
        · rw [after, hr]
          exact (hcancel _).trans h
  | observeReader =>
    obtain ⟨hw, hr, hcommands, -⟩ := p.observeReader_cases
    refine ⟨?_, ?_, rfl, Or.inl hcommands⟩
    · rw [after, connection, hw]
      rfl
    · rw [after, hr]
      exact h
  | arrive frame => exact ⟨rfl, (p.reader.receive_connection frame).trans h, rfl, Or.inl rfl⟩
  | endInput => exact ⟨rfl, h, rfl, Or.inl rfl⟩
  | setReady ready => exact ⟨rfl, h, rfl, Or.inl rfl⟩

end Pair

namespace Hub

variable {hub : Hub} {c : ConnectionId}

@[simp] theorem logAll_nil (hub : Hub) : hub.logAll [] = hub := by simp [logAll]

/-- What the hub is after a deed of a pair. -/
def afterDeed (hub : Hub) (c : ConnectionId) (upshot : Pair.Upshot) : Hub :=
  ((hub.updateMailbox c fun _ => upshot.box).logAll upshot.entries).submitAll upshot.commands

theorem afterDeed_of_idle {box : Mailbox} (hbox : hub.mailbox? c = some box) (p : Pair) :
    hub.afterDeed c ⟨p, box, [], []⟩ = hub := by
  rw [afterDeed, updateMailbox_self hbox, logAll_nil]
  rfl

end Hub

namespace Session

variable {s : Session} {i : Nat} {c : ConnectionId} {p : Pair} {box : Mailbox}

/-- A pair tends a connection of an orderly hub, with its mailbox. -/
structure Tends (s : Session) (i : Nat) (c : ConnectionId) (p : Pair) (box : Mailbox) :
    Prop where
  orderly : s.hub.Orderly
  running : s.hub.running = true
  task : s.tasks.get? i = some (.paired p)
  connection : p.connection = c
  reader : p.reader.connection = c
  mailbox : s.hub.mailbox? c = some box

theorem Tends.known (h : s.Tends i c p box) : c.number < s.hub.nextConnection :=
  h.orderly.known c (by rw [Hub.keeps?, h.mailbox]; rfl)

/-- What happens at the hub beside the pair adds to the mailbox at most. -/
theorem Tends.conduct_hub (h : s.Tends i c p box) {act : Hub.Act} (hact : act.receiver? ≠ some c) :
    ∃ box', (s.conduct i (.hub act)).Tends i c p box' ∧ box'.intake = box.intake ∧
      box'.waiting = box.waiting ++ s.enqueuing c (.hub act) := by
  obtain ⟨box', hbox', hintake, hwaiting⟩ := Hub.mailbox?_perform h.orderly hact h.mailbox
  exact ⟨box', ⟨h.orderly.perform act, (Hub.perform_running act).trans h.running, h.task,
    h.connection, h.reader, hbox'⟩, hintake, hwaiting⟩

/-- What a deed of the pair does to the session. -/
theorem Tends.conduct_eq (h : s.Tends i c p box) {deed : Deed} (hd : deed.act? = none) :
    (s.conduct i deed).tasks.get? i = some (.paired (p.after box deed).pair) ∧
      (s.conduct i deed).hub = s.hub.afterDeed c (p.after box deed) := by
  have hbox : s.hub.mailbox? (Task.paired p).connection = some box := by
    rw [← h.mailbox, ← h.connection]
    rfl
  have hput (t : Task) (hub : Hub) (links : Table Nat WebSocket.Link) :
      (s.putTask i t hub links).tasks.get? i = some t := by
    rw [get?_putTask, if_pos rfl]
  cases deed with
  | hub act => cases hd
  | start =>
    rw [conduct, perform, startTask_eq h.task]
    exact ⟨hput _ _ _, (Hub.afterDeed_of_idle h.mailbox _).symm⟩
  | write =>
    rw [conduct, perform, stepWriter_eq h.task rfl hbox]
    refine ⟨hput _ _ _, ?_⟩
    have hc : (Task.paired p).connection = c := h.connection
    rw [hc]
    rfl
  | read =>
    rw [conduct, perform, stepReader_eq h.task rfl]
    refine ⟨hput _ _ _, ?_⟩
    rw [Hub.afterDeed, Pair.after, Hub.updateMailbox_self h.mailbox]
    rfl
  | observeWriter =>
    rw [conduct, perform, observe_eq h.task]
    refine ⟨hput _ _ _, ?_⟩
    rw [Hub.afterDeed, Pair.after, Hub.updateMailbox_self h.mailbox]
    rfl
  | observeReader =>
    rw [conduct, perform, observe_eq h.task]
    refine ⟨hput _ _ _, ?_⟩
    rw [Hub.afterDeed, Pair.after, Hub.updateMailbox_self h.mailbox]
    rfl
  | arrive frame =>
    simp only [conduct, arrive, h.task, Task.reader?]
    exact ⟨by rw [Table.get?_insert, if_pos rfl]; rfl, (Hub.afterDeed_of_idle h.mailbox _).symm⟩
  | endInput =>
    simp only [conduct, endInput, h.task, Task.reader?]
    exact ⟨by rw [Table.get?_insert, if_pos rfl]; rfl, (Hub.afterDeed_of_idle h.mailbox _).symm⟩
  | setReady ready =>
    simp only [conduct, setReady]
    refine ⟨?_, (Hub.afterDeed_of_idle h.mailbox _).symm⟩
    rw [Table.get?_modify, if_pos rfl, h.task]
    rfl

/-- After a deed of its own the pair still tends its connection, and has told the hub what the deed
says. -/
theorem Tends.conduct_own (h : s.Tends i c p box) {deed : Deed} (hd : deed.act? = none) :
    (s.conduct i deed).Tends i c (p.after box deed).pair (p.after box deed).box ∧
      s.tells i deed = (p.after box deed).commands := by
  obtain ⟨htask, hhub⟩ := h.conduct_eq hd
  obtain ⟨hc, hr, hattached, hcommands⟩ :=
    Pair.after_shared (h.reader.trans h.connection.symm) box deed
  rw [h.connection] at hc hr hcommands
  let updated := (s.hub.updateMailbox c fun _ => (p.after box deed).box).logAll
    (p.after box deed).entries
  have horderly : updated.Orderly := by
    refine Hub.Orderly.logAll (h.orderly.updateMailbox fun box' hbox' => ?_) _
    obtain rfl : box = box' := Option.some.inj (h.mailbox.symm.trans hbox')
    exact hattached
  have hbox : updated.mailbox? c = some (p.after box deed).box := by
    have hget : s.hub.mailboxes.get? c = some box := h.mailbox
    show ((s.hub.mailboxes.modify c _).get? c) = _
    rw [Table.get?_modify, if_pos rfl, hget]
    rfl
  have hupdated : s.hub.afterDeed c (p.after box deed) = updated ∨
      s.hub.afterDeed c (p.after box deed) = updated.unregister c := by
    rcases hcommands with hnone | hone
    · exact Or.inl (by rw [Hub.afterDeed, hnone]; rfl)
    · exact Or.inr (by rw [Hub.afterDeed, hone]; rfl)
  have hrunning : updated.running = true := h.running
  refine ⟨⟨?_, ?_, htask, hc, hr, ?_⟩, ?_⟩
  · rw [hhub]
    rcases hupdated with he | he <;> rw [he]
    · exact horderly
    · exact horderly.submit rfl
  · rw [hhub]
    rcases hupdated with he | he <;> rw [he]
    · exact hrunning
    · exact (Hub.submit_running _).trans hrunning
  · rw [hhub]
    rcases hupdated with he | he <;> rw [he]
    · exact hbox
    · exact (Hub.submit_mailbox? _ c).trans hbox
  · have hpending : (s.conduct i deed).hub.pending =
        s.hub.pending ++ (p.after box deed).commands := by
      rw [hhub, Hub.afterDeed]
      rcases hcommands with hnone | hone
      · rw [hnone, List.append_nil]
        rfl
      · rw [hone]
        exact congrArg Hub.pending (if_pos hrunning)
    rw [tells, hd, hpending]
    exact List.drop_left

end Session
end LiveUpdate
