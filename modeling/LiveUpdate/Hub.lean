import LiveUpdate.Mailbox
import LiveUpdate.Journal

/-! The hub. Whoever holds a handle submits commands; one control loop applies them strictly in the
order of submission and is the only one to change the table and the counters. Subscribers own the
receiving ends of their mailboxes. -/
namespace LiveUpdate

structure Stats where
  connections : Nat
  students : Nat
  unfiltered : Nat
  delivered : Nat
  dropped : Nat
  deriving DecidableEq, Repr

def Stats.zero : Stats := ⟨0, 0, 0, 0, 0⟩

inductive Command
  | register (c : ConnectionId) (a : Audience)
  | unregister (c : ConnectionId)
  | send (m : Message)
  /-- Asks for the figures; the answer is filed under the ticket. -/
  | stats (ticket : Nat)
  deriving DecidableEq, Repr

structure Hub where
  capacity : Nat
  capacity_pos : 0 < capacity
  /-- Whether the control loop is there to apply commands. -/
  running : Bool
  pending : List Command
  registry : Registry
  delivered : Nat
  dropped : Nat
  mailboxes : Table ConnectionId Mailbox
  nextConnection : Nat
  answers : Table Nat Stats
  nextTicket : Nat
  journal : List Entry

namespace Hub

/-- A hub that has just been started. -/
def start (capacity : Nat) (capacity_pos : 0 < capacity) : Hub where
  capacity
  capacity_pos
  running := true
  pending := []
  registry := .empty
  delivered := 0
  dropped := 0
  mailboxes := .empty
  nextConnection := 0
  answers := .empty
  nextTicket := 0
  journal := [.started capacity]

def log (hub : Hub) (entry : Entry) : Hub := { hub with journal := hub.journal ++ [entry] }

def logAll (hub : Hub) (entries : List Entry) : Hub :=
  { hub with journal := hub.journal ++ entries }

def stats (hub : Hub) : Stats where
  connections := hub.registry.connectionCount
  students := hub.registry.studentCount
  unfiltered := hub.registry.unfilteredCount
  delivered := hub.delivered
  dropped := hub.dropped

/-! ### The control loop -/

/-- Offers an event to one connection of the table and counts the outcome. -/
def deliver (e : Event) (hub : Hub) (c : ConnectionId) : Hub :=
  match hub.registry.audiences.get? c, hub.mailboxes.get? c with
  | some a, some box =>
    match box.offer hub.capacity e with
    | (.delivered, box) =>
      { hub with mailboxes := hub.mailboxes.insert c box, delivered := hub.delivered + 1 }
    | (.dropped, _) => { hub with dropped := hub.dropped + 1 }.log (.droppedFor e c a)
    | (.refused, _) => hub.log (.stoppedReading c)
  | _, _ => hub

def fanOut (hub : Hub) (m : Message) : Hub :=
  (hub.registry.recipients m.scope).foldl (deliver m.event) hub

def apply (hub : Hub) : Command → Hub
  | .register c a => { hub with registry := hub.registry.register c a }.log (.registered c a)
  | .unregister c =>
    match hub.registry.unregister c with
    | (some a, registry) =>
      { hub with registry, mailboxes := hub.mailboxes.modify c .detach }.log (.unregistered c a)
    | (none, _) => hub.log (.alreadyUnregistered c)
  | .send m =>
    let after := hub.fanOut m
    after.log (.fannedOut m (after.delivered - hub.delivered) (after.dropped - hub.dropped))
  | .stats ticket => { hub with answers := hub.answers.insert ticket hub.stats }

/-- One step of the loop: the oldest pending command. -/
def step (hub : Hub) : Hub :=
  match hub.pending with
  | [] => hub
  | command :: rest => { hub with pending := rest }.apply command

/-- Without its loop the hub has no table, no figures, and no sending ends. -/
def halt (hub : Hub) : Hub :=
  { hub with
    running := false
    pending := []
    registry := .empty
    delivered := 0
    dropped := 0
    mailboxes := hub.mailboxes.mapValues fun _ box => box.detach }

/-- The loop ends in order: nobody can submit any more and nothing is pending. -/
def stop (hub : Hub) : Hub := (hub.log (.stopped hub.registry.connectionCount)).halt

/-! ### Handles -/

/-- Hands a command to the loop; with the loop gone it is discarded, which is reported. -/
def submit (hub : Hub) (command : Command) : Hub :=
  if hub.running then { hub with pending := hub.pending ++ [command] } else hub.log .discarded

def submitAll (hub : Hub) (commands : List Command) : Hub := commands.foldl submit hub

/-- A number for a connection that nobody has used. -/
def freshConnection (hub : Hub) : ConnectionId × Hub :=
  (⟨hub.nextConnection⟩, { hub with nextConnection := hub.nextConnection + 1 })

/-- A new subscription; without a loop to keep the sending end its mailbox is closed at once. -/
def register (hub : Hub) (a : Audience) : ConnectionId × Hub :=
  let (c, hub) := hub.freshConnection
  let box := if hub.running then Mailbox.fresh else Mailbox.fresh.detach
  (c, { hub with mailboxes := hub.mailboxes.insert c box }.submit (.register c a))

def unregister (hub : Hub) (c : ConnectionId) : Hub := hub.submit (.unregister c)

def send (hub : Hub) (m : Message) : Hub := hub.submit (.send m)

/-- Like `send`, but a message for nobody is not even submitted. -/
def sendTo (hub : Hub) (audiences : List Audience) (e : Event) : Hub :=
  if audiences = [] then hub.log (.skippedNobody e) else hub.send ⟨.only audiences, e⟩

def sendToStudents (hub : Hub) (students : List StudentId) (e : Event) : Hub :=
  hub.sendTo (students.map .student) e

/-- Asks for the figures and returns the ticket under which they will be filed. -/
def askStats (hub : Hub) : Nat × Hub :=
  (hub.nextTicket, { hub with nextTicket := hub.nextTicket + 1 }.submit (.stats hub.nextTicket))

/-- The figures filed under a ticket; all zeros if none will ever be. -/
def answer (hub : Hub) (ticket : Nat) : Stats × Hub :=
  ((hub.answers.get? ticket).getD .zero, { hub with answers := hub.answers.erase ticket })

/-! ### Receiving ends -/

def mailbox? (hub : Hub) (c : ConnectionId) : Option Mailbox := hub.mailboxes.get? c

def updateMailbox (hub : Hub) (c : ConnectionId) (f : Mailbox → Mailbox) : Hub :=
  { hub with mailboxes := hub.mailboxes.modify c f }

end Hub
end LiveUpdate
