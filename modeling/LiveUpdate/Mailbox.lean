import LiveUpdate.Event

/-! The queue between the hub and one subscriber. It is bounded: the hub never waits for a slow
subscriber, and an event that does not fit is lost while the older ones stay. -/
namespace LiveUpdate

/-- What the receiving end does: it takes events; it has refused further ones but may take those
that wait; or it is gone. -/
inductive Intake
  | listening
  | refusing
  | gone
  deriving DecidableEq, Repr

structure Mailbox where
  waiting : List Event
  /-- Whether the hub still holds the sending end. -/
  attached : Bool
  intake : Intake
  deriving DecidableEq, Repr

inductive Delivery
  | delivered
  | dropped
  | refused
  deriving DecidableEq, Repr

namespace Mailbox

/-- No mailbox can be made for more events than this. -/
def maxCapacity : Nat := 2305843009213693951

def fresh : Mailbox := ⟨[], true, .listening⟩

/-- Offers an event. A receiver that takes no more is noticed before a lack of room. -/
def offer (capacity : Nat) (e : Event) (box : Mailbox) : Delivery × Mailbox :=
  if box.intake ≠ .listening then (.refused, box)
  else if box.waiting.length < capacity then
    (.delivered, { box with waiting := box.waiting ++ [e] })
  else (.dropped, box)

/-- Takes the oldest event. -/
def take (box : Mailbox) : Option Event × Mailbox :=
  match box.waiting with
  | [] => (none, box)
  | e :: rest => (some e, { box with waiting := rest })

def refuseMore (box : Mailbox) : Mailbox :=
  match box.intake with
  | .listening => { box with intake := .refusing }
  | _ => box

/-- The receiving end goes away, and with it what waited. -/
def abandon (box : Mailbox) : Mailbox := { box with waiting := [], intake := .gone }

def detach (box : Mailbox) : Mailbox := { box with attached := false }

/-- Whether the receiving end can see that nothing new will arrive. -/
def isClosed (box : Mailbox) : Bool := !box.attached || box.intake ≠ .listening

end Mailbox
end LiveUpdate
