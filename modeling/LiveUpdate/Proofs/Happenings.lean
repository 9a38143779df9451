import LiveUpdate.Proofs.Cancellation

/-! What a session does to its hub. Every move comes to a few happenings at the hub, so that what
holds of every course of happenings holds of every session. -/
namespace LiveUpdate

/-- The act by which a command is handed over. -/
def Command.act : Command → Hub.Act
  | register _ a => .register a
  | unregister c => .unregister c
  | send m => .send m
  | stats _ => .askStats

/-- Whether handing the command over does nothing else. -/
def Command.isPlain : Command → Bool
  | unregister _ | send _ => true
  | _ => false

/-- Whether the command is a word that a connection goes. -/
def Command.departs : Command → Bool
  | unregister _ => true
  | _ => false

theorem Command.plain_of_departs {command : Command} (h : command.departs = true) :
    command.isPlain = true := by
  cases command with
  | unregister c => rfl
  | _ => cases h

namespace Hub

/-- What can happen to a hub, short of the loss of its loop. -/
inductive Happening
  | act (act : Act)
  /-- Lines are written into the journal. -/
  | noted (entries : List Entry)
  /-- A number is used up for a connection that never was. -/
  | numbered
  /-- The figures filed under a ticket are fetched. -/
  | fetched (ticket : Nat)
  /-- The loop ends in order. -/
  | stopped
  deriving DecidableEq, Repr

variable {hub : Hub}

def happen (hub : Hub) : Happening → Hub
  | .act act => hub.perform act
  | .noted entries => hub.logAll entries
  | .numbered => hub.freshConnection.2
  | .fetched ticket => (hub.answer ticket).2
  | .stopped => hub.stop

def undergo (hub : Hub) (course : List Happening) : Hub := course.foldl happen hub

@[simp] theorem undergo_nil (hub : Hub) : hub.undergo [] = hub := rfl

@[simp] theorem undergo_cons (hub : Hub) (happening : Happening) (rest : List Happening) :
    hub.undergo (happening :: rest) = (hub.happen happening).undergo rest := rfl

@[simp] theorem undergo_append (hub : Hub) (first rest : List Happening) :
    hub.undergo (first ++ rest) = (hub.undergo first).undergo rest := List.foldl_append

/-- Acts as happenings. -/
def doings (acts : List Act) : List Happening := acts.map .act

@[simp] theorem undergo_doings (acts : List Act) : hub.undergo (doings acts) = hub.run acts :=
  List.foldl_map

/-- Commands that are handed over one after the other. -/
def handing (commands : List Command) : List Happening := doings (commands.map Command.act)

theorem perform_act {command : Command} (h : command.isPlain = true) :
    hub.perform command.act = hub.submit command := by
  cases command with
  | unregister c => rfl
  | send m => rfl
  | _ => cases h

theorem undergo_handing {commands : List Command}
    (h : ∀ command ∈ commands, command.isPlain = true) :
    hub.undergo (handing commands) = hub.submitAll commands := by
  rw [handing, undergo_doings]
  induction commands generalizing hub with
  | nil => rfl
  | cons command rest ih =>
    have hfirst := @perform_act hub command (h command List.mem_cons_self)
    have hrest := @ih (hub.submit command) fun x hx => h x (List.mem_cons_of_mem _ hx)
    rw [List.map_cons, run, List.foldl_cons, hfirst]
    exact hrest

/-- Lines of the journal and then commands, as a task leaves them. -/
def leaving (entries : List Entry) (commands : List Command) : List Happening :=
  .noted entries :: handing commands

theorem undergo_leaving (entries : List Entry) {commands : List Command}
    (h : ∀ command ∈ commands, command.isPlain = true) :
    hub.undergo (leaving entries commands) = (hub.logAll entries).submitAll commands :=
  undergo_handing h

end Hub

/-! ### What receivers do -/

namespace Hub

variable {hub : Hub} {c : ConnectionId} {box : Mailbox}

/-- What an act of its receiver leaves of a mailbox. -/
def Act.onBox (box : Mailbox) : Act → Mailbox
  | take _ => box.take.2
  | refuseMore _ => box.refuseMore
  | abandon _ => box.abandon
  | _ => box

theorem perform_own {act : Act} (hact : act.receiver? = some c)
    (hbox : hub.mailbox? c = some box) :
    hub.perform act = hub.updateMailbox c fun _ => act.onBox box := by
  cases act with
  | take c' =>
    obtain rfl : c' = c := Option.some.inj hact
    rw [updateMailbox_eq hbox]
    exact updateMailbox_eq hbox _
  | refuseMore c' =>
    obtain rfl : c' = c := Option.some.inj hact
    rw [updateMailbox_eq hbox]
    exact updateMailbox_eq hbox _
  | abandon c' =>
    obtain rfl : c' = c := Option.some.inj hact
    rw [updateMailbox_eq hbox]
    exact updateMailbox_eq hbox _
  | _ => cases hact

/-- A receiver that does something several times over changes its own mailbox and nothing else. -/
theorem run_own {acts : List Act} (hacts : ∀ act ∈ acts, act.receiver? = some c)
    (hbox : hub.mailbox? c = some box) :
    hub.run acts = hub.updateMailbox c fun _ => acts.foldl Act.onBox box := by
  induction acts generalizing hub box with
  | nil => exact (updateMailbox_self hbox).symm
  | cons act rest ih =>
    have hfirst := perform_own (hacts act List.mem_cons_self) hbox
    have hbox' := mailbox?_updateMailbox_own hbox fun _ => act.onBox box
    have hrest := ih (fun x hx => hacts x (List.mem_cons_of_mem _ hx)) hbox'
    have hrun : hub.run (act :: rest) = (hub.perform act).run rest := rfl
    rw [hrun, hfirst, hrest, updateMailbox_eq hbox', updateMailbox_eq hbox, updateMailbox_eq hbox]
    simp only [Table.insert_insert, List.foldl_cons]

/-- So many events are taken. -/
def takes (c : ConnectionId) (n : Nat) : List Act := List.replicate n (.take c)

theorem onBox_takes (box : Mailbox) (n : Nat) : (takes c n).foldl Act.onBox box =
    { box with waiting := box.waiting.drop n } := by
  induction n generalizing box with
  | zero => rfl
  | succ n ih =>
    rw [takes, List.replicate_succ, List.foldl_cons]
    have hrest := ih box.take.2
    cases hw : box.waiting with
    | nil => simpa [Act.onBox, Mailbox.take, hw, takes] using hrest
    | cons e rest => simpa [Act.onBox, Mailbox.take, hw, takes] using hrest

theorem run_takes (hbox : hub.mailbox? c = some box) (n : Nat) : hub.run (takes c n) =
    hub.updateMailbox c fun _ => { box with waiting := box.waiting.drop n } := by
  have hacts : ∀ act ∈ takes c n, act.receiver? = some c := by
    intro act hact
    rw [(List.mem_replicate.mp hact).2]
    rfl
  rw [run_own hacts hbox, onBox_takes]

end Hub

namespace Writer

/-- What a step of a writer does to its mailbox: it takes an event, or it ends and lets go. -/
def acts (w : Writer) (box : Mailbox) : List Hub.Act :=
  (if w.outcome = .running ∧ w.inHand = none ∧ box.waiting ≠ [] then [.take w.connection]
    else []) ++
  if w.outcome.isLive && !(w.step box).1.outcome.isLive then [.abandon w.connection] else []

theorem receiver?_acts (w : Writer) (box : Mailbox) :
    ∀ act ∈ w.acts box, act.receiver? = some w.connection := by
  intro act hact
  unfold acts at hact
  grind [Hub.Act.receiver?]

theorem step_box (w : Writer) (box : Mailbox) :
    (w.step box).2.1 = (w.acts box).foldl Hub.Act.onBox box := by
  unfold acts step
  by_cases hr : w.outcome = .running
  · have hl : w.outcome.isLive = true := by rw [hr]; rfl
    rw [if_pos hr, hl]
    cases hh : w.inHand with
    | some hand =>
      obtain ⟨e, frame⟩ := hand
      by_cases hready : w.sink.ready = true
      · simp only [hready, if_true, writeInHand]
        cases w.sink.write (.text frame) <;> simp [finish, hr, Outcome.isLive, Hub.Act.onBox]
      · simp [hready, hl]
    | none =>
      cases ht : box.waiting with
      | cons e rest =>
        simp only [Mailbox.take, ht, encodeTaken]
        cases w.encode e <;> simp [finish, hr, Outcome.isLive, Mailbox.take, ht, Hub.Act.onBox]
      | nil =>
        by_cases hc : box.isClosed = true
        · simp only [Mailbox.take, ht, hc, if_true, closeTransport]
          cases w.sink.close <;> simp [finish, Outcome.isLive, Hub.Act.onBox]
        · simp [Mailbox.take, ht, hc, hl]
  · rw [if_neg hr]
    simp [hr]

end Writer

/-! ### What tasks say to the hub -/

theorem Reader.step_departs (r : Reader) : ∀ command ∈ r.step.2.1, command.departs = true := by
  obtain ⟨-, -, hstep⟩ := r.step_cases
  intro command hcommand
  rcases hstep with ⟨hnone, -⟩ | ⟨-, hone, -⟩
  · rw [hnone] at hcommand
    cases hcommand
  · rw [hone, List.mem_singleton] at hcommand
    rw [hcommand]
    rfl

theorem Pair.observeWriter_departs (p : Pair) :
    ∀ command ∈ p.observeWriter.2.1, command.departs = true := by
  unfold observeWriter
  split <;> simp [Command.departs]

theorem Pair.observeReader_departs (p : Pair) :
    ∀ command ∈ p.observeReader.2.1, command.departs = true := by
  rw [p.observeReader_commands]
  exact List.forall_mem_nil _

theorem Task.abort_departs (t : Task) : ∀ command ∈ t.abort.2, command.departs = true := by
  cases t with
  | writing w => exact List.forall_mem_nil _
  | reading r => exact List.forall_mem_nil _
  | paired p =>
    simp only [abort, Pair.abort]
    split <;> simp [Command.departs]

namespace Session

variable {s : Session} {i : Nat}

/-- What a move does to the hub. -/
def effect (s : Session) : Move → List Hub.Happening
  | .apply => [.act .step]
  | .stop => if s.hub.running && s.hub.pending.isEmpty && !s.held then [.stopped] else []
  | .start _ => []
  | .write i =>
    match s.tasks.get? i with
    | none => []
    | some t =>
      match t.writer?, s.hub.mailbox? t.connection with
      | some w, some box => Hub.doings (w.acts box) ++ [.noted (w.step box).2.2]
      | _, _ => []
  | .read i =>
    match (s.tasks.get? i).bind Task.reader? with
    | some r => Hub.leaving r.step.2.2 r.step.2.1
    | none => []
  | .observeWriter i =>
    match (s.tasks.get? i).bind Task.pair? with
    | some p => Hub.leaving p.observeWriter.2.2 p.observeWriter.2.1
    | none => []
  | .observeReader i =>
    match (s.tasks.get? i).bind Task.pair? with
    | some p => Hub.leaving p.observeReader.2.2 p.observeReader.2.1
    | none => []
  | .cancel i =>
    match s.tasks.get? i with
    | some t =>
      (if t.owns && !t.abort.1.owns then [.act (.abandon t.connection)] else []) ++
        Hub.handing t.abort.2
    | none => []
  | .giveUp i =>
    match s.greetings.get? i with
    | some ⟨c, student, some why⟩ =>
      [.noted [.greetingFailed student c why], .act (.unregister c), .act (.abandon c)]
    | _ => []

theorem stepWriter_hub (s : Session) (i : Nat) :
    (s.stepWriter i).hub = s.hub.undergo (s.effect (.write i)) := by
  cases hi : s.tasks.get? i with
  | none => simp [stepWriter, effect, hi]
  | some t =>
    cases hw : t.writer? with
    | none => simp [stepWriter, effect, hi, hw]
    | some w =>
      cases hbox : s.hub.mailbox? t.connection with
      | none => simp [stepWriter, effect, hi, hw, hbox]
      | some box =>
        have hacts := w.receiver?_acts box
        rw [← Task.connection_of_writer? hw] at hacts
        have heffect : s.effect (.write i) =
            Hub.doings (w.acts box) ++ [.noted (w.step box).2.2] := by
          simp only [effect, hi, hw, hbox]
        rw [heffect, Hub.undergo_append, Hub.undergo_doings, Hub.run_own hacts hbox,
          ← w.step_box box, stepWriter_eq hi hw hbox]
        rfl

theorem stepReader_hub (s : Session) (i : Nat) :
    (s.stepReader i).hub = s.hub.undergo (s.effect (.read i)) := by
  cases hi : s.tasks.get? i with
  | none => simp [stepReader, effect, hi]
  | some t =>
    cases hr : t.reader? with
    | none => simp [stepReader, effect, hi, hr]
    | some r =>
      have heffect : s.effect (.read i) = Hub.leaving r.step.2.2 r.step.2.1 := by
        simp only [effect, hi, Option.bind_some, hr]
      have hplain := fun x hx => Command.plain_of_departs (r.step_departs x hx)
      rw [heffect, Hub.undergo_leaving _ hplain, stepReader_eq hi hr]
      rfl

/-- What a supervisor does that looks at its pumps. -/
theorem observe_hub (s : Session) (i : Nat) {look : Pair → Pair × List Command × List Entry}
    (hdeparts : ∀ p, ∀ command ∈ (look p).2.1, command.departs = true) :
    (s.observe i look).hub = s.hub.undergo
      (match (s.tasks.get? i).bind Task.pair? with
        | some p => Hub.leaving (look p).2.2 (look p).2.1
        | none => []) := by
  cases hi : s.tasks.get? i with
  | none => simp [observe, hi]
  | some t =>
    cases t with
    | writing w => simp [observe, hi, Task.pair?]
    | reading r => simp [observe, hi, Task.pair?]
    | paired p =>
      have hplain := fun x hx => Command.plain_of_departs (hdeparts p x hx)
      simp only [Option.bind_some, Task.pair?, Hub.undergo_leaving _ hplain, observe_eq hi]
      rfl

theorem cancelTask_effect (s : Session) (i : Nat) :
    (s.cancelTask i).hub = s.hub.undergo (s.effect (.cancel i)) := by
  let s₀ : Session := { s with doomed := s.doomed.filter (· ≠ i) }
  have hcancel : s.cancelTask i = s₀.replaceTask i Task.abort := rfl
  cases hi : s.tasks.get? i with
  | none =>
    have hi₀ : s₀.tasks.get? i = none := hi
    simp only [hcancel, replaceTask, hi₀, effect, Hub.undergo_nil, s₀]
  | some t =>
    have hi₀ : s₀.tasks.get? i = some t := hi
    have hplain := fun x hx => Command.plain_of_departs (t.abort_departs x hx)
    rw [hcancel, replaceTask_hub hi₀]
    simp only [effect, hi, Hub.undergo_append, Hub.undergo_handing hplain]
    split <;> rfl

/-- The hub after a move is the hub after what the move does to it. -/
theorem perform_hub (s : Session) (m : Move) : (s.perform m).hub = s.hub.undergo (s.effect m) := by
  cases m with
  | apply => rfl
  | stop =>
    simp only [perform, stopIfIdle, effect]
    split <;> rfl
  | start i =>
    simp only [perform, startTask, effect]
    split <;> rfl
  | write i => exact s.stepWriter_hub i
  | read i => exact s.stepReader_hub i
  | observeWriter i => exact s.observe_hub i Pair.observeWriter_departs
  | observeReader i => exact s.observe_hub i Pair.observeReader_departs
  | cancel i => exact s.cancelTask_effect i
  | giveUp i =>
    simp only [perform, giveUpGreeting, effect]
    cases s.greetings.get? i with
    | none => rfl
    | some g =>
      obtain ⟨c, student, obstacle⟩ := g
      cases obstacle <;> rfl

/-! ### Settling -/

/-- What moves do to the hub, one after the other. -/
def effects : Session → List Move → List Hub.Happening
  | _, [] => []
  | s, m :: rest => s.effect m ++ effects (s.perform m) rest

theorem performAll_hub (s : Session) (moves : List Move) :
    (s.performAll moves).hub = s.hub.undergo (s.effects moves) := by
  induction moves generalizing s with
  | nil => rfl
  | cons m rest ih =>
    have hrest := ih (s.perform m)
    rw [s.perform_hub m] at hrest
    rw [effects, Hub.undergo_append]
    exact hrest

/-- What happens to the hub until the session has settled. -/
def settling (s : Session) : List Hub.Happening := s.effects s.settleMoves

theorem settle_hub (s : Session) : s.settle.hub = s.hub.undergo s.settling := by
  obtain ⟨due, resting, hs⟩ := settle_eq s
  rw [hs]
  exact s.performAll_hub s.settleMoves

end Session
end LiveUpdate
