import LiveUpdate.DomainEvent

/-! Publishers call their handlers in the order of registration. A copy of a publisher shares its
list of handlers; extending a publisher copies the list into a new one and leaves the shared one as
it was. The shelf keeps every publisher made so far, so that a whole history of derivations can be
told as a list of operations. -/
namespace LiveUpdate

inductive Publisher (Handler : Type)
  /-- The list was made for this publisher. -/
  | owning (handlers : List Handler)
  /-- The list is that of another publisher, which is known by its number. -/
  | sharing (owner : Nat)
  deriving DecidableEq, Repr

namespace Publisher

variable {Handler : Type}

def fresh : Publisher Handler := .owning []

/-- The copy of a publisher that has a number. -/
def copy (number : Nat) : Publisher Handler → Publisher Handler
  | owning _ => .sharing number
  | sharing owner => .sharing owner

/-- An operation on the publishers made so far, which are numbered from 0. -/
inductive Operation (Handler : Type)
  | fresh
  | copy (on : Nat)
  | extend (on : Nat) (h : Handler)
  | publish (on : Nat) (e : DomainEvent)
  deriving DecidableEq, Repr

inductive Outcome (Handler : Type)
  | made (number : Nat)
  | called (calls : List (Handler × DomainEvent))
  | missing
  deriving DecidableEq, Repr

abbrev Shelf (Handler : Type) := List (Publisher Handler)

namespace Shelf

/-- The handlers of a publisher, its own or shared. -/
def handlers? (shelf : Shelf Handler) (number : Nat) : Option (List Handler) :=
  match shelf[number]? with
  | some (.owning handlers) => some handlers
  | some (.sharing owner) =>
    match shelf[owner]? with
    | some (.owning handlers) => some handlers
    | _ => none
  | none => none

def place (shelf : Shelf Handler) (p : Publisher Handler) : Outcome Handler × Shelf Handler :=
  (.made shelf.length, shelf ++ [p])

def perform (shelf : Shelf Handler) : Operation Handler → Outcome Handler × Shelf Handler
  | .fresh => shelf.place Publisher.fresh
  | .copy on =>
    match shelf[on]? with
    | some p => shelf.place (p.copy on)
    | none => (.missing, shelf)
  | .extend on h =>
    match shelf.handlers? on with
    | some handlers => shelf.place (.owning (handlers ++ [h]))
    | none => (.missing, shelf)
  | .publish on e =>
    match shelf.handlers? on with
    | some handlers => (.called (handlers.map (·, e)), shelf)
    | none => (.missing, shelf)

/-- Performs the operations in order and lists their outcomes. -/
def run (shelf : Shelf Handler) : List (Operation Handler) → List (Outcome Handler) × Shelf Handler
  | [] => ([], shelf)
  | op :: rest =>
    let (outcome, shelf) := shelf.perform op
    let (outcomes, shelf) := run shelf rest
    (outcome :: outcomes, shelf)

end Shelf
end Publisher
end LiveUpdate
