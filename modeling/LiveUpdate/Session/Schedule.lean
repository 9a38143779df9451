import LiveUpdate.Session.Basic

/-! What happens by itself. Each move is one atomic action of the control loop or of one task, and
does nothing where it is not enabled. Workers take turns: a worker is woken when there is something
for it to do, the woken wait in line, and in its turn a worker makes all the moves it can; only the
control loop, after a full share of commands, gives way to everybody else. A session has settled
when the line is empty. -/
namespace LiveUpdate

inductive Move
  /-- The control loop applies the oldest pending command. -/
  | apply
  /-- The control loop ends, if nobody can submit any more and nothing is pending. -/
  | stop
  | start (task : Nat)
  | write (task : Nat)
  | read (task : Nat)
  | observeWriter (task : Nat)
  | observeReader (task : Nat)
  /-- A task is cut off. -/
  | cancel (task : Nat)
  /-- A greeting that cannot be written is given up. -/
  | giveUp (greeting : Nat)
  deriving DecidableEq, Repr

namespace Session

def applyNext (s : Session) : Session := s.onHub Hub.step

def stopIfIdle (s : Session) : Session :=
  if s.hub.running && s.hub.pending.isEmpty && !s.held then s.onHub Hub.stop else s

def startTask (s : Session) (i : Nat) : Session :=
  match s.tasks.get? i with
  | some (.paired p) => { s with tasks := s.tasks.insert i (.paired p.start) }
  | _ => s

def stepWriter (s : Session) (i : Nat) : Session :=
  match s.tasks.get? i with
  | none => s
  | some task =>
    match task.writer?, s.hub.mailbox? task.connection with
    | some w, some box =>
      let (w, box, entries) := w.step box
      { s with
        tasks := s.tasks.insert i (task.setWriter w)
        hub := (s.hub.updateMailbox task.connection fun _ => box).logAll entries }
    | _, _ => s

def stepReader (s : Session) (i : Nat) : Session :=
  match s.tasks.get? i with
  | none => s
  | some task =>
    match task.reader? with
    | none => s
    | some r =>
      let (r, commands, entries) := r.step
      { s with
        tasks := s.tasks.insert i (task.setReader r)
        hub := (s.hub.logAll entries).submitAll commands }

/-- A supervisor looks at its pumps. -/
def observe (s : Session) (i : Nat) (look : Pair → Pair × List Command × List Entry) : Session :=
  match s.tasks.get? i with
  | some (.paired p) =>
    let (p, commands, entries) := look p
    { s with
      tasks := s.tasks.insert i (.paired p)
      hub := (s.hub.logAll entries).submitAll commands }
  | _ => s

/-- The mailbox goes with the writer that took it. -/
def releaseMailbox (s : Session) (before after : Task) : Session :=
  if before.owns && !after.owns then s.abandon before.connection else s

/-- Replaces a task by what is left of it, and hands its last commands to the hub. -/
def replaceTask (s : Session) (i : Nat) (cut : Task → Task × List Command) : Session :=
  match s.tasks.get? i with
  | none => s
  | some task =>
    let (rest, commands) := cut task
    ({ s with tasks := s.tasks.insert i rest }.releaseMailbox task rest).submitAll commands

def cancelTask (s : Session) (i : Nat) : Session :=
  { s with doomed := s.doomed.filter (· ≠ i) }.replaceTask i Task.abort

/-- The registration is taken back. -/
def giveUpGreeting (s : Session) (i : Nat) : Session :=
  match s.greetings.get? i with
  | some ⟨c, student, some why⟩ =>
    let s := { s with greetings := s.greetings.erase i }.log (.greetingFailed student c why)
    (s.unregister c).abandon c
  | _ => s

def perform (s : Session) : Move → Session
  | .apply => s.applyNext
  | .stop => s.stopIfIdle
  | .start i => s.startTask i
  | .write i => s.stepWriter i
  | .read i => s.stepReader i
  | .observeWriter i => s.observe i Pair.observeWriter
  | .observeReader i => s.observe i Pair.observeReader
  | .cancel i => s.cancelTask i
  | .giveUp i => s.giveUpGreeting i

def performAll (s : Session) (moves : List Move) : Session := moves.foldl perform s

/-! ### Turns -/

/-- Enough steps of a writer to empty its mailbox and close: two for each event, and the frame that
may be in hand. -/
def writerMoves (s : Session) (i : Nat) : List Move :=
  match (s.tasks.get? i).bind fun task => s.hub.mailbox? task.connection with
  | some box => List.replicate (2 * box.waiting.length + 2) (.write i)
  | none => []

def readerMoves (s : Session) (i : Nat) : List Move :=
  match (s.tasks.get? i).bind Task.reader? with
  | some r => List.replicate (r.arrived.length + 1) (.read i)
  | none => []

/-- The most commands that the control loop takes in one turn. -/
def share : Nat := 128

def hubMoves (s : Session) : List Move :=
  if s.hub.pending.length < share then s.hub.pending.map (fun _ => .apply) ++ [.stop]
  else List.replicate share .apply

/-- What a worker does in its turn. -/
def moves (s : Session) : Worker → List Move
  | .hub => s.hubMoves
  | .task i =>
    if s.doomed.contains i then [.cancel i]
    else match s.tasks.get? i with
      | some (.writing _) => s.writerMoves i
      | some (.reading _) => s.readerMoves i
      | some (.paired _) => [.start i, .observeReader i, .observeWriter i]
      | none => []
  | .writer i => s.writerMoves i
  | .reader i => s.readerMoves i
  | .greeter i => [.giveUp i]

/-- Those that a worker spawns in its turn: a supervisor its two pumps, when it begins. -/
def spawned (s : Session) : Worker → List Worker
  | .task i =>
    match s.tasks.get? i with
    | some (.paired p) =>
      if p.stage = .fresh && !s.doomed.contains i then [.writer i, .reader i] else []
    | _ => []
  | _ => []

/-- Whether a writer could go on. -/
def writerCanGo (s : Session) (w : Writer) : Bool :=
  match s.hub.mailbox? w.connection with
  | some box => w.canGo box
  | none => false

/-- Whether there is something for a worker to do. -/
def canGo (s : Session) : Worker → Bool
  | .hub => s.hub.running && !s.resting && (!s.hub.pending.isEmpty || !s.held)
  | .task i =>
    s.doomed.contains i ||
      match s.tasks.get? i with
      | some (.writing w) => s.writerCanGo w
      | some (.reading r) => r.canGo
      | some (.paired p) => p.canGo
      | none => false
  | .writer i =>
    match (s.tasks.get? i).bind Task.pair? with
    | some p => s.writerCanGo p.writer
    | none => false
  | .reader i =>
    match (s.tasks.get? i).bind Task.pair? with
    | some p => p.reader.canGo
    | none => false
  | .greeter i =>
    match s.greetings.get? i with
    | some g => g.obstacle.isSome
    | none => false

def workers (s : Session) : List Worker :=
  .hub :: s.tasks.keys.flatMap (fun i => [.writer i, .reader i, .task i]) ++
    s.greetings.keys.map .greeter

/-- Wakes those for whom there is something to do; they join the line, unless they stand in it. -/
def wake (s : Session) : Session :=
  { s with due := s.due ++ s.workers.filter fun w => s.canGo w && !s.due.contains w }

/-- Whether a worker gives way after its turn. -/
def rests (s : Session) (w : Worker) : Bool := w = .hub && share ≤ s.hub.pending.length

/-- A worker that has left the line takes its turn. -/
def turn (s : Session) (w : Worker) : Session :=
  let after := s.performAll (s.moves w)
  { after with
    due := after.due ++ s.spawned w
    resting := s.resting || s.rests w }.wake

/-- The control loop goes on. -/
def resume (s : Session) : Session := { s with resting := false }.wake

/-- So many turns. -/
def turns : Nat → Session → Session
  | 0, s => s
  | n + 1, s =>
    match s.due with
    | [] => if s.resting then turns n s.resume else s
    | w :: rest => turns n ({ s with due := rest }.turn w)

/-- A bound on the turns that are left. Every turn either gets something done for good, and may then
wake everybody, or only shortens the line. What can be done for good is bounded: a command is
applied once, a task has at most five stages and pumps to leave behind and a greeting only itself,
each with one more command, and a cancellation or the end of the loop is done once. -/
def patience (s : Session) : Nat :=
  let done := s.hub.pending.length + 10 * s.tasks.keys.length + 2 * s.greetings.keys.length +
    2 * s.doomed.length + 1
  s.due.length + 2 + (s.workers.length + 5) * done

/-- Lets everything go on that can. -/
def settle (s : Session) : Session :=
  let s := s.wake
  turns s.patience s

end Session
end LiveUpdate
