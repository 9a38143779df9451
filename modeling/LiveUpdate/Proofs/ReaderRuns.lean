import LiveUpdate.Proofs.Tending

/-! A reader on its own, from its first step to its end. Items arrive for it, and the input may end,
at any time. It reads what arrives up to the first item after which nothing is read, or to the end
of the input, and only then tells the hub that the connection goes, once; what else there is among
the items makes no difference. -/
namespace LiveUpdate

namespace Inbound

variable {items passed rest : List Inbound} {item : Inbound}

/-- The items up to the first after which nothing is read. -/
def upToEnd : List Inbound → List Inbound
  | [] => []
  | item :: rest => if item.isTerminal then [item] else item :: upToEnd rest

/-- How a reader ends that has met this item, or the end of the input. -/
def result : Option Inbound → Outcome
  | some (failure why) => .stopped (.transport (some why))
  | _ => .finished

theorem upToEnd_append (h : ∀ item ∈ passed, item.isTerminal = false) (rest : List Inbound) :
    upToEnd (passed ++ rest) = passed ++ upToEnd rest := by
  induction passed with
  | nil => rfl
  | cons first others ih =>
    rw [List.forall_mem_cons] at h
    rw [List.cons_append, upToEnd, if_neg (by simp [h.1]), ih h.2, List.cons_append]

/-- Without such an item, all are read. -/
theorem upToEnd_of_none (h : items.find? isTerminal = none) : upToEnd items = items := by
  have hpassed : ∀ item ∈ items, item.isTerminal = false := by simpa using h
  have hall := upToEnd_append hpassed []
  rwa [List.append_nil, upToEnd, List.append_nil] at hall

/-- What comes after such an item is not read. -/
theorem upToEnd_of_some (h : items.find? isTerminal = some item) : ∃ passed,
    (∀ item ∈ passed, item.isTerminal = false) ∧
      ∀ later, upToEnd (items ++ later) = passed ++ [item] := by
  obtain ⟨hterminal, passed, rest, rfl, hpassed⟩ := List.find?_eq_some_iff_append.mp h
  have hpassed' : ∀ item ∈ passed, item.isTerminal = false := by simpa using hpassed
  refine ⟨passed, hpassed', fun later => ?_⟩
  rw [List.append_assoc, upToEnd_append hpassed', List.cons_append, upToEnd, if_pos hterminal]

end Inbound

namespace Reader

variable {r : Reader} {item : Inbound} {rest : List Inbound}

/-- A running reader takes the item at the front, and ends with it if nothing is read after it. -/
theorem step_of_cons (hr : r.outcome = .running) (ha : r.arrived = item :: rest) :
    r.step.1 = { r with
      arrived := rest
      outcome := if item.isTerminal then Inbound.result (some item) else .running } ∧
    r.step.2.1 = if item.isTerminal then [.unregister r.connection] else [] := by
  obtain ⟨connection, arrived, ended, outcome⟩ := r
  subst hr ha
  cases item <;> exact ⟨rfl, rfl⟩

/-- Without an item it waits, or ends with the input. -/
theorem step_of_nil (hr : r.outcome = .running) (ha : r.arrived = []) :
    r.step.1 = { r with outcome := if r.ended then .finished else .running } ∧
    r.step.2.1 = if r.ended then [.unregister r.connection] else [] := by
  obtain ⟨connection, arrived, ended, outcome⟩ := r
  subst hr ha
  cases ended <;> exact ⟨rfl, rfl⟩

theorem step_of_not_running (hr : r.outcome ≠ .running) : r.step = (r, [], []) := by
  rw [step, if_neg hr]

theorem step_ended (r : Reader) : r.step.1.ended = r.ended := by
  by_cases hr : r.outcome = .running
  · cases ha : r.arrived with
    | nil => rw [(step_of_nil hr ha).1]
    | cons item rest => rw [(step_of_cons hr ha).1]
  · rw [step_of_not_running hr]

end Reader

/-- What can happen to a reader. -/
inductive Incident
  | arrive (item : Inbound)
  | endInput
  | read
  deriving DecidableEq, Repr

/-- A reader, and what has come of it so far. -/
structure Reading where
  reader : Reader
  /-- The items that have arrived before the end of the input, read or not. -/
  inbound : List Inbound
  /-- The items that the reader has read. -/
  consumed : List Inbound
  commands : List Command

namespace Reading

def new (c : ConnectionId) : Reading := ⟨.new c .running, [], [], []⟩

def occur (p : Reading) : Incident → Reading
  | .arrive item =>
    { p with
      reader := p.reader.receive item
      inbound := if p.reader.ended then p.inbound else p.inbound ++ [item] }
  | .endInput => { p with reader := p.reader.endInput }
  | .read =>
    let (reader, commands, _) := p.reader.step
    let count := p.reader.arrived.length - reader.arrived.length
    { p with
      reader
      consumed := p.consumed ++ p.reader.arrived.take count
      commands := p.commands ++ commands }

def occurAll (p : Reading) (incidents : List Incident) : Reading := incidents.foldl occur p

/-- The first item after which nothing is read. -/
def last? (p : Reading) : Option Inbound := p.inbound.find? Inbound.isTerminal

variable {p : Reading} {c : ConnectionId}

/-- A reader that goes on: nothing that it has read was the last, and the hub has heard nothing. -/
structure Going (p : Reading) (c : ConnectionId) : Prop where
  connection : p.reader.connection = c
  outcome : p.reader.outcome = .running
  inbound : p.inbound = p.consumed ++ p.reader.arrived
  passed : ∀ item ∈ p.consumed, item.isTerminal = false
  commands : p.commands = []

/-- A reader that has come to its end. -/
structure AtEnd (p : Reading) (c : ConnectionId) : Prop where
  met : p.last?.isSome = true ∨ p.reader.ended = true
  outcome : p.reader.outcome = Inbound.result p.last?
  consumed : p.consumed = Inbound.upToEnd p.inbound
  commands : p.commands = [.unregister c]

theorem going_new (c : ConnectionId) : (new c).Going c :=
  ⟨rfl, rfl, rfl, List.forall_mem_nil _, rfl⟩

/-! ### Steps -/

theorem Going.arrive (h : p.Going c) (item : Inbound) : (p.occur (.arrive item)).Going c := by
  refine ⟨(p.reader.receive_connection item).trans h.connection,
    (p.reader.receive_outcome item).trans h.outcome, ?_, h.passed, h.commands⟩
  cases hended : p.reader.ended with
  | true => simp [occur, Reader.receive, Reader.isOpen, hended, h.inbound]
  | false =>
    simp [occur, Reader.receive, Reader.isOpen, hended, h.outcome, Outcome.isLive, h.inbound]

theorem Going.endInput (h : p.Going c) : (p.occur .endInput).Going c :=
  ⟨h.connection, h.outcome, h.inbound, h.passed, h.commands⟩

theorem read_of_cons {item : Inbound} {rest : List Inbound} (hr : p.reader.outcome = .running)
    (ha : p.reader.arrived = item :: rest) : p.occur .read = { p with
      reader := { p.reader with
        arrived := rest
        outcome := if item.isTerminal then Inbound.result (some item) else .running }
      consumed := p.consumed ++ [item]
      commands := p.commands ++ if item.isTerminal then [.unregister p.reader.connection] else [] }
    := by
  obtain ⟨hreader, hcommands⟩ := Reader.step_of_cons hr ha
  simp [occur, ha, hreader, hcommands]

theorem read_of_nil (hr : p.reader.outcome = .running) (ha : p.reader.arrived = []) :
    p.occur .read = { p with
      reader := { p.reader with outcome := if p.reader.ended then .finished else .running }
      commands := p.commands ++ if p.reader.ended then [.unregister p.reader.connection] else [] }
    := by
  obtain ⟨hreader, hcommands⟩ := Reader.step_of_nil hr ha
  simp [occur, ha, hreader, hcommands]

/-- Without an item a reader waits, or comes to its end with the end of the input. -/
theorem Going.read_of_nil (h : p.Going c) (ha : p.reader.arrived = []) :
    (p.occur .read).Going c ∨ (p.occur .read).AtEnd c := by
  have hinbound : p.inbound = p.consumed := by rw [h.inbound, ha, List.append_nil]
  rw [Reading.read_of_nil h.outcome ha]
  cases hended : p.reader.ended with
  | false =>
    exact .inl ⟨h.connection, rfl, by simp [hinbound, ha], h.passed, by simp [h.commands]⟩
  | true =>
    have hlast : p.inbound.find? Inbound.isTerminal = none := by
      rw [hinbound]
      simpa using h.passed
    refine .inr ⟨.inr hended, ?_, ?_, by simp [h.commands, h.connection]⟩
    · rw [last?, hlast]
      rfl
    · rw [Inbound.upToEnd_of_none hlast, hinbound]

/-- With an item a reader goes on, or comes to its end if nothing is read after it. -/
theorem Going.read_of_cons {item : Inbound} {rest : List Inbound} (h : p.Going c)
    (ha : p.reader.arrived = item :: rest) :
    (p.occur .read).Going c ∨ (p.occur .read).AtEnd c := by
  have hinbound : p.inbound = p.consumed ++ item :: rest := by rw [h.inbound, ha]
  rw [Reading.read_of_cons h.outcome ha]
  cases hterminal : item.isTerminal with
  | false =>
    refine .inl ⟨h.connection, rfl, by simp [hinbound], fun x hx => ?_, by simp [h.commands]⟩
    rcases List.mem_append.mp hx with hx | hx
    · exact h.passed x hx
    · rwa [List.mem_singleton.mp hx]
  | true =>
    have hlast : p.inbound.find? Inbound.isTerminal = some item := by
      rw [hinbound, List.find?_append, List.find?_eq_none.mpr (by simpa using h.passed)]
      simp [hterminal]
    refine .inr ⟨.inl ?_, ?_, ?_, by simp [h.commands, h.connection]⟩
    · rw [last?, hlast]
      rfl
    · rw [last?, hlast]
      rfl
    · rw [hinbound, Inbound.upToEnd_append h.passed, Inbound.upToEnd, if_pos hterminal]

theorem Going.read (h : p.Going c) : (p.occur .read).Going c ∨ (p.occur .read).AtEnd c := by
  cases ha : p.reader.arrived with
  | nil => exact h.read_of_nil ha
  | cons item rest => exact h.read_of_cons ha

theorem AtEnd.isLive (h : p.AtEnd c) : p.reader.outcome.isLive = false := by
  rw [h.outcome]
  unfold Inbound.result
  split <;> rfl

/-- What arrives after the item that was the last, or after the end, changes neither of them. -/
theorem AtEnd.inbound_arrive (h : p.AtEnd c) (item : Inbound) :
    (p.occur (.arrive item)).last? = p.last? ∧
      Inbound.upToEnd (p.occur (.arrive item)).inbound = Inbound.upToEnd p.inbound := by
  cases hended : p.reader.ended with
  | true => simp [Reading.occur, last?, hended]
  | false =>
    obtain ⟨last, hlast⟩ := Option.isSome_iff_exists.mp (h.met.resolve_right (by simp [hended]))
    obtain ⟨passed, -, hsame⟩ := Inbound.upToEnd_of_some hlast
    have hall := hsame []
    rw [List.append_nil] at hall
    have hfind : p.inbound.find? Inbound.isTerminal = some last := hlast
    simp [Reading.occur, last?, hended, hfind, hsame, hall]

/-- At its end a reader stays as it is, whatever arrives. -/
theorem AtEnd.occur (h : p.AtEnd c) (o : Incident) : (p.occur o).AtEnd c ∧
    (p.occur o).consumed = p.consumed ∧ (p.occur o).reader.outcome = p.reader.outcome := by
  cases o with
  | read =>
    have hnot : p.reader.outcome ≠ .running := by
      intro hr
      have hlive := h.isLive
      rw [hr] at hlive
      cases hlive
    have hread : p.occur .read = p := by
      simp [Reading.occur, Reader.step_of_not_running hnot]
    rw [hread]
    exact ⟨h, rfl, rfl⟩
  | endInput => exact ⟨⟨.inr rfl, h.outcome, h.consumed, h.commands⟩, rfl, rfl⟩
  | arrive item =>
    have hreader : p.reader.receive item = p.reader := by
      simp [Reader.receive, Reader.isOpen, h.isLive]
    obtain ⟨hlast, hread⟩ := h.inbound_arrive item
    refine ⟨⟨?_, ?_, ?_, h.commands⟩, rfl, ?_⟩
    · rw [hlast]
      simpa [Reading.occur, hreader] using h.met
    · rw [hlast]
      simpa [Reading.occur, hreader] using h.outcome
    · rw [hread]
      exact h.consumed
    · simp [Reading.occur, hreader]

/-! ### Runs -/

/-- A reader goes on or is at its end. -/
inductive Stands (p : Reading) (c : ConnectionId) : Prop
  | going (h : p.Going c)
  | atEnd (h : p.AtEnd c)

theorem Stands.occur (h : p.Stands c) (o : Incident) : (p.occur o).Stands c := by
  cases h with
  | atEnd h => exact .atEnd (h.occur o).1
  | going h =>
    cases o with
    | arrive item => exact .going (h.arrive item)
    | endInput => exact .going h.endInput
    | read => exact h.read.elim .going .atEnd

theorem Stands.occurAll (h : p.Stands c) (incidents : List Incident) :
    (p.occurAll incidents).Stands c := by
  induction incidents generalizing p with
  | nil => exact h
  | cons o rest ih => exact ih (h.occur o)

theorem AtEnd.occurAll (h : p.AtEnd c) (incidents : List Incident) :
    (p.occurAll incidents).AtEnd c ∧ (p.occurAll incidents).consumed = p.consumed ∧
      (p.occurAll incidents).reader.outcome = p.reader.outcome := by
  induction incidents generalizing p with
  | nil => exact ⟨h, rfl, rfl⟩
  | cons o rest ih =>
    obtain ⟨hend, hconsumed, houtcome⟩ := h.occur o
    obtain ⟨hend', hconsumed', houtcome'⟩ := ih hend
    exact ⟨hend', hconsumed'.trans hconsumed, houtcome'.trans houtcome⟩

/-! ### What is read in the end -/

/-- What has come of a reader that has read all that it reads of its input, as it is so far. -/
structure Exhausted (p : Reading) (c : ConnectionId) : Prop where
  consumed : p.consumed = Inbound.upToEnd p.inbound
  commands : p.commands =
    if p.last?.isSome = true ∨ p.reader.ended = true then [.unregister c] else []
  outcome : p.reader.outcome =
    if p.last?.isSome = true ∨ p.reader.ended = true then Inbound.result p.last? else .running

/-- A reader that has nothing to do has read all that it reads. -/
theorem Stands.exhausted (h : p.Stands c) (hidle : p.reader.canGo = false) : p.Exhausted c := by
  cases h with
  | atEnd h =>
    exact ⟨h.consumed, by rw [if_pos h.met, h.commands], by rw [if_pos h.met, h.outcome]⟩
  | going h =>
    obtain ⟨harrived, hended⟩ : p.reader.arrived = [] ∧ p.reader.ended = false := by
      simpa [Reader.canGo, h.outcome] using hidle
    have hinbound := h.inbound
    rw [harrived, List.append_nil] at hinbound
    have hlast : p.last? = none := by
      rw [last?, hinbound]
      simpa using h.passed
    refine ⟨?_, ?_, ?_⟩
    · rw [Inbound.upToEnd_of_none hlast, hinbound]
    · simp [hlast, hended, h.commands]
    · simp [hlast, hended, h.outcome]

/-- Steps of the reader neither add to the input nor end it. -/
theorem reads_frame (p : Reading) (n : Nat) :
    (p.occurAll (List.replicate n .read)).inbound = p.inbound ∧
      (p.occurAll (List.replicate n .read)).reader.ended = p.reader.ended := by
  induction n generalizing p with
  | zero => exact ⟨rfl, rfl⟩
  | succ n ih =>
    obtain ⟨hinbound, hended⟩ := ih (p.occur .read)
    exact ⟨hinbound, hended.trans p.reader.step_ended⟩

/-- One step for each item that waits, and one for the end, are enough. -/
theorem idle_of_reads {n : Nat}
    (hn : p.reader.canGo = true → p.reader.arrived.length < n) :
    (p.occurAll (List.replicate n .read)).reader.canGo = false := by
  induction n generalizing p with
  | zero => exact Bool.eq_false_iff.mpr fun hcan => Nat.not_lt_zero _ (hn hcan)
  | succ n ih =>
    refine ih fun hcan => ?_
    by_cases hr : p.reader.outcome = .running
    · cases ha : p.reader.arrived with
      | nil =>
        rw [read_of_nil hr ha] at hcan
        cases hended : p.reader.ended <;> simp [Reader.canGo, hended, ha] at hcan
      | cons item rest =>
        have hlength := hn (by simp [Reader.canGo, hr, ha])
        rw [ha, List.length_cons] at hlength
        rw [read_of_cons hr ha]
        exact Nat.lt_of_succ_lt_succ hlength
    · have hsame : (p.occur .read).reader = p.reader := by
        simp [Reading.occur, Reader.step_of_not_running hr]
      rw [hsame] at hcan
      simp [Reader.canGo, hr] at hcan

/-! ### Results -/

/-- Nothing is read that comes after the last item. -/
theorem Stands.consumed_prefix (h : p.Stands c) : p.consumed <+: Inbound.upToEnd p.inbound := by
  cases h with
  | atEnd h => exact h.consumed ▸ List.prefix_rfl
  | going h =>
    rw [h.inbound, Inbound.upToEnd_append h.passed]
    exact List.prefix_append _ _

/-- A reader fails just if the last item that it has read is an error, and with that error. -/
theorem Stands.stopped_iff (h : p.Stands c) (why : Fault) : p.reader.outcome = .stopped why ↔
    ∃ cause, p.consumed.getLast? = some (.failure cause) ∧ why = .transport (some cause) := by
  have hpassed (hall : ∀ item ∈ p.consumed, item.isTerminal = false) (cause : String) :
      p.consumed.getLast? ≠ some (.failure cause) := fun hlast =>
    Bool.noConfusion (hall _ (List.mem_of_getLast? hlast))
  cases h with
  | going h => simp [h.outcome, hpassed h.passed]
  | atEnd h =>
    rw [h.outcome]
    cases hlast : p.last? with
    | none =>
      have hall : ∀ item ∈ p.consumed, item.isTerminal = false := by
        rw [h.consumed, Inbound.upToEnd_of_none hlast]
        simpa [last?] using hlast
      simp [Inbound.result, hpassed hall]
    | some item =>
      obtain ⟨passed, -, hread⟩ := Inbound.upToEnd_of_some hlast
      have hconsumed := hread []
      rw [List.append_nil, ← h.consumed] at hconsumed
      rw [hconsumed, List.getLast?_concat]
      cases item <;> simp [Inbound.result, eq_comm]

/-- Items that are not the last make no difference. -/
theorem Exhausted.unique {q : Reading} (hp : p.Exhausted c) (hq : q.Exhausted c)
    (hinbound : q.inbound.filter Inbound.isTerminal = p.inbound.filter Inbound.isTerminal)
    (hended : q.reader.ended = p.reader.ended) :
    q.reader.outcome = p.reader.outcome ∧ q.commands = p.commands := by
  have hlast : q.last? = p.last? := by
    rw [last?, last?, ← List.head?_filter, ← List.head?_filter, hinbound]
  rw [hq.outcome, hp.outcome, hq.commands, hp.commands, hlast, hended]
  exact ⟨rfl, rfl⟩

end Reading

/-! ### In a session -/

/-- What a deed means for a reader. -/
def Deed.incident? : Deed → Option Incident
  | .arrive item => some (.arrive item)
  | .endInput => some .endInput
  | .read => some .read
  | _ => none

namespace Session

variable {s : Session} {i : Nat} {p : Reading}

/-- A task that only reads does with each deed what its reader does, and tells the hub no more. -/
theorem conduct_reading (hr : s.hub.running = true)
    (hi : s.tasks.get? i = some (.reading p.reader)) (deed : Deed) :
    (s.conduct i deed).hub.running = true ∧
      (s.conduct i deed).tasks.get? i =
        some (.reading (p.occurAll deed.incident?.toList).reader) ∧
      (p.occurAll deed.incident?.toList).commands = p.commands ++ s.tells i deed := by
  -- what a deed adds to the pending commands is what it tells the hub
  have htells {commands : List Command} (hown : deed.act? = none)
      (hpending : (s.conduct i deed).hub.pending = s.hub.pending ++ commands) :
      s.tells i deed = commands := by
    rw [tells, hown, hpending]
    exact List.drop_left
  have hnothing (hown : deed.act? = none) (hhub : (s.conduct i deed).hub = s.hub) :
      s.tells i deed = [] := htells hown (by rw [hhub, List.append_nil])
  -- a task that only reads has no part in the deeds of a writer and a supervisor
  have hidle (hown : deed.act? = none) (hinc : deed.incident? = none)
      (hsame : s.conduct i deed = s) : (s.conduct i deed).hub.running = true ∧
      (s.conduct i deed).tasks.get? i =
        some (.reading (p.occurAll deed.incident?.toList).reader) ∧
      (p.occurAll deed.incident?.toList).commands = p.commands ++ s.tells i deed := by
    rw [hnothing hown (by rw [hsame]), hsame, hinc]
    exact ⟨hr, hi, (List.append_nil _).symm⟩
  cases deed with
  | hub act => exact ⟨(Hub.perform_running act).trans hr, hi, (List.append_nil _).symm⟩
  | start => exact hidle rfl rfl (by simp [conduct, perform, startTask, hi])
  | write => exact hidle rfl rfl (by simp [conduct, perform, stepWriter, hi, Task.writer?])
  | observeWriter => exact hidle rfl rfl (by simp [conduct, perform, observe, hi])
  | observeReader => exact hidle rfl rfl (by simp [conduct, perform, observe, hi])
  | setReady ready =>
    rw [hnothing rfl rfl]
    refine ⟨hr, ?_, (List.append_nil _).symm⟩
    rw [conduct, setReady, Table.get?_modify, if_pos rfl, hi]
    rfl
  | arrive item =>
    have hconduct : s.conduct i (.arrive item) = { s with
        tasks := s.tasks.insert i (.reading (p.reader.receive item)) } := by
      simp [conduct, arrive, hi, Task.reader?, Task.setReader]
    rw [hnothing rfl (by rw [hconduct]), hconduct]
    exact ⟨hr, by rw [Table.get?_insert, if_pos rfl]; rfl, (List.append_nil _).symm⟩
  | endInput =>
    have hconduct : s.conduct i .endInput = { s with
        tasks := s.tasks.insert i (.reading p.reader.endInput) } := by
      simp [conduct, endInput, hi, Task.reader?, Task.setReader]
    rw [hnothing rfl (by rw [hconduct]), hconduct]
    exact ⟨hr, by rw [Table.get?_insert, if_pos rfl]; rfl, (List.append_nil _).symm⟩
  | read =>
    have hconduct : s.conduct i .read = s.putTask i (.reading p.reader.step.1)
        ((s.hub.logAll p.reader.step.2.2).submitAll p.reader.step.2.1) s.links :=
      stepReader_eq hi rfl
    have hrunning : (s.hub.logAll p.reader.step.2.2).running = true := hr
    have hpending : (s.conduct i .read).hub.pending = s.hub.pending ++ p.reader.step.2.1 := by
      rw [hconduct, putTask, Hub.submitAll_eq, hrunning]
      rfl
    rw [htells rfl hpending, hconduct, get?_putTask, if_pos rfl]
    exact ⟨(Hub.submitAll_running _).trans hr, rfl, rfl⟩

theorem conductAll_reading (hr : s.hub.running = true)
    (hi : s.tasks.get? i = some (.reading p.reader)) (deeds : List Deed) :
    (s.conductAll i deeds).tasks.get? i =
        some (.reading (p.occurAll (deeds.filterMap Deed.incident?)).reader) ∧
      (p.occurAll (deeds.filterMap Deed.incident?)).commands =
        p.commands ++ s.told i deeds := by
  induction deeds generalizing s p with
  | nil => exact ⟨hi, (List.append_nil _).symm⟩
  | cons deed rest ih =>
    obtain ⟨hr', hi', hcommands⟩ := conduct_reading hr hi deed
    obtain ⟨htask, htold⟩ := ih hr' hi'
    have hall : p.occurAll ((deed :: rest).filterMap Deed.incident?) =
        (p.occurAll deed.incident?.toList).occurAll (rest.filterMap Deed.incident?) := by
      cases hinc : deed.incident? <;> simp [Reading.occurAll, hinc]
    rw [hall]
    refine ⟨htask, ?_⟩
    rw [htold, hcommands, List.append_assoc]
    rfl

end Session

namespace Reading

/-- Whatever arrives for a reader that nobody cuts off, and whenever it makes its steps:

* it reads nothing beyond the first item after which nothing is read, a close frame or an error. It
  has told the hub nothing as long as it goes on, and nothing that it has read by then was such an
  item. It ends when it has read such an item, or else all items and the end of the input; and has
  then told the hub that its connection goes, and no more.
* It fails just if the last item that it has read is an error, and with that error. Once it has told
  the hub, it reads and tells nothing more and its result stands.
* One step more than there are items left lets it read all that it reads, and then the hub has been
  told just if there is such an item or the input has ended.
* Two readers of inputs with the same such items, which have both ended or not, come to the same
  result and have told the hub the same, whatever else is among the items.
* In a session with a live hub, where anything may happen at the hub meanwhile, a task that only
  reads does and tells just that. -/
theorem stops_at_first_terminal (c : ConnectionId) (incidents : List Incident) :
    let p := (new c).occurAll incidents
    p.consumed <+: Inbound.upToEnd p.inbound ∧
    (p.reader.outcome = .running ∧ p.commands = [] ∧
        (∀ item ∈ p.consumed, item.isTerminal = false) ∨
      (p.last?.isSome = true ∨ p.reader.ended = true) ∧
        p.consumed = Inbound.upToEnd p.inbound ∧ p.commands = [.unregister c] ∧
        p.reader.outcome = Inbound.result p.last?) ∧
    (∀ why, p.reader.outcome = .stopped why ↔
      ∃ cause, p.consumed.getLast? = some (.failure cause) ∧ why = .transport (some cause)) ∧
    (p.commands ≠ [] → ∀ later,
      (p.occurAll later).consumed = p.consumed ∧ (p.occurAll later).commands = p.commands ∧
        (p.occurAll later).reader.outcome = p.reader.outcome) ∧
    (∀ n, p.reader.arrived.length < n →
      let q := p.occurAll (List.replicate n .read)
      q.inbound = p.inbound ∧ q.consumed = Inbound.upToEnd p.inbound ∧
        q.commands =
          if p.last?.isSome = true ∨ p.reader.ended = true then [.unregister c] else []) ∧
    (∀ others,
      let q := (new c).occurAll others
      q.inbound.filter Inbound.isTerminal = p.inbound.filter Inbound.isTerminal →
        q.reader.ended = p.reader.ended → p.reader.canGo = false → q.reader.canGo = false →
          q.reader.outcome = p.reader.outcome ∧ q.commands = p.commands) ∧
    ∀ (s : Session) (deeds : List Deed), s.hub.running = true →
      deeds.filterMap Deed.incident? = incidents →
        let i := (s.runReader c).1
        let opened := (s.runReader c).2
        (opened.conductAll i deeds).tasks.get? i = some (.reading p.reader) ∧
          opened.told i deeds = p.commands := by
  intro p
  have hstands : p.Stands c := (Stands.going (going_new c)).occurAll incidents
  refine ⟨hstands.consumed_prefix, ?_, hstands.stopped_iff, fun htold later => ?_, fun n hn => ?_,
    fun others => ?_, fun s deeds hr hdeeds => ?_⟩
  · cases hstands with
    | going h => exact .inl ⟨h.outcome, h.commands, h.passed⟩
    | atEnd h => exact .inr ⟨h.met, h.consumed, h.commands, h.outcome⟩
  · cases hstands with
    | going h => exact absurd h.commands htold
    | atEnd h =>
      obtain ⟨hend, hconsumed, houtcome⟩ := h.occurAll later
      exact ⟨hconsumed, hend.commands.trans h.commands.symm, houtcome⟩
  · intro q
    have hdone : q.Exhausted c :=
      (hstands.occurAll _).exhausted (idle_of_reads fun _ => hn)
    obtain ⟨hinbound, hended⟩ := p.reads_frame n
    have hlast : q.last? = p.last? := congrArg (List.find? Inbound.isTerminal) hinbound
    refine ⟨hinbound, hdone.consumed.trans (congrArg Inbound.upToEnd hinbound), ?_⟩
    rw [hdone.commands, hlast, hended]
  · intro q hinbound hended hp hq
    have hstands' : q.Stands c := (Stands.going (going_new c)).occurAll others
    exact (hstands.exhausted hp).unique (hstands'.exhausted hq) hinbound hended
  · intro i opened
    have htask : opened.tasks.get? i = some (.reading (new c).reader) := by
      show (s.tasks.insert s.next (.reading (.new c .running))).get? s.next = _
      rw [Table.get?_insert, if_pos rfl]
      rfl
    have hrunning : opened.hub.running = true := hr
    have hrun := Session.conductAll_reading (p := new c) hrunning htask deeds
    rw [hdeeds] at hrun
    exact ⟨hrun.1, hrun.2.symm⟩

/-- An error comes between frames that make no difference; the close frame after it is not read. -/
theorem stops_at_first_terminal_reset :
    let incidents : List Incident := [.arrive .text, .read, .arrive .ping,
      .arrive (.failure "reset"), .arrive .close, .read, .read]
    let p := (new ⟨3⟩).occurAll incidents
    p.consumed = [.text, .ping, .failure "reset"] ∧
      p.reader.outcome = .stopped (.transport (some "reset")) ∧
      ∀ later, (p.occurAll later).commands = [.unregister ⟨3⟩] := by
  intro incidents p
  obtain ⟨-, -, hstopped, hfinal, -⟩ := stops_at_first_terminal ⟨3⟩ incidents
  have hconsumed : p.consumed = [.text, .ping, .failure "reset"] := by decide
  have hcommands : p.commands = [.unregister ⟨3⟩] := by decide
  refine ⟨hconsumed, (hstopped _).mpr ⟨"reset", ?_, rfl⟩, fun later => ?_⟩
  · exact (congrArg List.getLast? hconsumed).trans rfl
  · exact (hfinal (by rw [hcommands]; simp) later).2.1.trans hcommands

end Reading
end LiveUpdate
