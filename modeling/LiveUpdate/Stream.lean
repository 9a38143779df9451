import LiveUpdate.Mailbox
import LiveUpdate.Registry
import LiveUpdate.Frame.Sse

/-! A mailbox read as the body of a server-sent-events response. The body takes from the mailbox
only while it is read, and fills long silences with empty comments. -/
namespace LiveUpdate

structure Stream where
  connection : ConnectionId
  /-- The silence, in milliseconds, after which a comment is due. -/
  keepAlive : Option Nat
  /-- When the next comment is due. -/
  due : Option Nat
  deriving DecidableEq, Repr

inductive Polled
  | chunk (text : String)
  | ended
  | pending
  deriving DecidableEq, Repr

namespace Stream

/-- A body that is opened at a moment. -/
def new (c : ConnectionId) (keepAlive : Option Nat) (now : Nat) : Stream :=
  ⟨c, keepAlive, keepAlive.map (now + ·)⟩

/-- The time of the next comment counts anew. -/
def restart (s : Stream) (now : Nat) : Stream := { s with due := s.keepAlive.map (now + ·) }

/-- The next chunk at a moment: a waiting event first, a comment if none waits and it is due. -/
def poll (s : Stream) (box : Mailbox) (now : Nat) : Polled × Stream × Mailbox :=
  match box.take with
  | (some e, rest) => (.chunk (Frame.sse e), s.restart now, rest)
  | (none, _) =>
    if box.isClosed then (.ended, s, box)
    else match s.due with
      | some due =>
        if due ≤ now then (.chunk Frame.keepAlive, s.restart now, box) else (.pending, s, box)
      | none => (.pending, s, box)

/-- At most `limit` chunks that can be read at a moment, and whether the body ended. -/
def read (s : Stream) (box : Mailbox) (now : Nat) : Nat → List String × Bool × Stream × Mailbox
  | 0 => ([], false, s, box)
  | limit + 1 =>
    match s.poll box now with
    | (.chunk text, s, box) =>
      let (texts, ended, s, box) := read s box now limit
      (text :: texts, ended, s, box)
    | (.ended, s, box) => ([], true, s, box)
    | (.pending, s, box) => ([], false, s, box)

end Stream
end LiveUpdate
