import LiveUpdate.Pump.Pair
import LiveUpdate.WebSocket.Link
import LiveUpdate.Stream
import LiveUpdate.AudiencePolicy

/-! A session: the hub together with everything that works on it. Handles, guards, pumps, response
bodies and unfinished greetings each keep the hub alive; when the last of them is gone and no
command is pending, the control loop ends. -/
namespace LiveUpdate

/-- Work that goes on by itself. -/
inductive Task
  | writing (w : Writer)
  | reading (r : Reader)
  | paired (p : Pair)

namespace Task

def connection : Task → ConnectionId
  | writing w => w.connection
  | reading r => r.connection
  | paired p => p.connection

def writer? : Task → Option Writer
  | writing w => some w
  | reading _ => none
  | paired p => some p.writer

def reader? : Task → Option Reader
  | writing _ => none
  | reading r => some r
  | paired p => some p.reader

def pair? : Task → Option Pair
  | paired p => some p
  | _ => none

def setWriter (w : Writer) : Task → Task
  | writing _ => writing w
  | reading r => reading r
  | paired p => paired { p with writer := w }

def setReader (r : Reader) : Task → Task
  | writing w => writing w
  | reading _ => reading r
  | paired p => paired { p with reader := r }

def mapSink (f : Sink → Sink) : Task → Task
  | writing w => writing { w with sink := f w.sink }
  | reading r => reading r
  | paired p => paired { p with writer := { p.writer with sink := f p.writer.sink } }

/-- Whether the hub has to stay for it. A writer needs only its mailbox. -/
def holds : Task → Bool
  | writing _ => false
  | reading r => r.outcome.isLive
  | paired p => p.holds

/-- Whether the task has neither ended nor been cancelled. -/
def isLive : Task → Bool
  | writing w => w.outcome.isLive
  | reading r => r.outcome.isLive
  | paired p => p.isLive

/-- Whether the writer of the task still holds the receiving end of the mailbox. -/
def owns (t : Task) : Bool :=
  match t.writer? with
  | some w => w.outcome.isLive
  | none => false

/-- The task is cancelled from outside; what it leaves for the hub to do. -/
def abort : Task → Task × List Command
  | writing w => (writing w.cancel, [])
  | reading r => (reading r.cancel, [])
  | paired p => let (p, commands) := p.abort; (paired p, commands)

/-- The task and all it has started are cut off. -/
def destroy : Task → Task × List Command
  | writing w => (writing w.cancel, [])
  | reading r => (reading r.cancel, [])
  | paired p => let (p, commands) := p.destroy; (paired p, commands)

end Task

/-- A WebSocket session that has registered and tries to write its greeting. -/
structure Greeting where
  connection : ConnectionId
  student : StudentId
  /-- Why the greeting cannot be written, once that is clear. -/
  obstacle : Option String
  deriving DecidableEq, Repr

/-- Those that take turns. Turns are taken in the order in which the workers were woken. -/
inductive Worker
  | hub
  /-- A task; of a pair, its supervisor. -/
  | task (i : Nat)
  /-- The writer of a pair. -/
  | writer (i : Nat)
  /-- The reader of a pair. -/
  | reader (i : Nat)
  | greeter (i : Nat)
  deriving DecidableEq, Repr

structure Session where
  hub : Hub
  /-- Virtual time in milliseconds. -/
  clock : Nat
  /-- The main handle, which the publisher and the router share. -/
  main : Bool
  clones : Nat
  guards : Table Nat ConnectionId
  tasks : Table Nat Task
  streams : Table Nat Stream
  greetings : Table Nat Greeting
  /-- The receiving halves of the WebSocket sessions, by the number of their task. -/
  links : Table Nat WebSocket.Link
  /-- Those that have been woken, in the order of their turns. -/
  due : List Worker
  /-- Whether the control loop has done its share and gives way until the line is empty. -/
  resting : Bool
  /-- Tasks that are to be cancelled at their next turn. -/
  doomed : List Nat
  /-- The number that the next guard, task, stream or greeting gets. -/
  next : Nat

namespace Session

def start (capacity : Nat) (capacity_pos : 0 < capacity) : Session where
  hub := .start capacity capacity_pos
  clock := 0
  main := true
  clones := 0
  guards := .empty
  tasks := .empty
  streams := .empty
  greetings := .empty
  links := .empty
  due := []
  resting := false
  doomed := []
  next := 0

/-- Whether anybody could still submit a command. -/
def held (s : Session) : Bool :=
  s.main || s.clones ≠ 0 || s.guards.size ≠ 0 || s.streams.size ≠ 0 || s.greetings.size ≠ 0 ||
    s.tasks.values.any Task.holds

def onHub (s : Session) (f : Hub → Hub) : Session := { s with hub := f s.hub }

def log (s : Session) (entry : Entry) : Session := s.onHub (·.log entry)

def submitAll (s : Session) (commands : List Command) : Session := s.onHub (·.submitAll commands)

def unregister (s : Session) (c : ConnectionId) : Session := s.onHub (·.unregister c)

/-- The receiving end of a mailbox goes. -/
def abandon (s : Session) (c : ConnectionId) : Session :=
  s.onHub (·.updateMailbox c Mailbox.abandon)

/-- A number for something new. -/
def fresh (s : Session) : Nat × Session := (s.next, { s with next := s.next + 1 })

/-- A task begins with its first turn. -/
def addTask (s : Session) (task : Task) : Nat × Session :=
  let (i, s) := s.fresh
  (i, { s with tasks := s.tasks.insert i task, due := s.due ++ [.task i] })

end Session
end LiveUpdate
