import LiveUpdate.Pump.Reader
import LiveUpdate.WebSocket.Frame

/-! The receiving half of a WebSocket connection: bytes become messages, pings are answered, and the
closing handshake is completed, without the reader having to know. -/
namespace LiveUpdate.WebSocket

structure Link where
  /-- Bytes that do not make a whole frame yet. -/
  unread : List UInt8
  /-- The message of which some fragments have come. -/
  fragments : Option (Opcode × List UInt8)
  /-- Nothing more is read. -/
  finished : Bool
  deriving DecidableEq, Repr

/-- How a connection has come to its end, as far as the sending half is concerned. -/
inductive Ending
  /-- The client closes. The answer is sent when the sending half closes; nothing else may be. -/
  | closing (answer : Outgoing)
  /-- The client is gone. -/
  | lost
  deriving DecidableEq, Repr

/-- Why a frame cannot be sent after the end. -/
def Ending.objection : Ending → String
  | closing _ => "WebSocket protocol error: Sending after closing is not allowed"
  | lost => "Trying to work with closed connection"

/-- What is still sent when the sending half closes. -/
def Ending.farewell : Ending → Option Outgoing
  | closing answer => some answer
  | lost => none

/-- What the arrival of bytes brings about. -/
structure Arrival where
  link : Link
  messages : List Inbound
  replies : List Outgoing
  ending : Option Ending
  deriving DecidableEq, Repr

namespace Link

def fresh : Link := ⟨[], none, false⟩

def more (link : Link) (messages : List Inbound) (replies : List Outgoing) : Arrival :=
  ⟨link, messages, replies, none⟩

/-- The connection is broken: the reader learns why, and reads nothing more. -/
def fail (link : Link) (why : Violation) : Arrival :=
  ⟨{ link with finished := true }, [.failure why.message], [], none⟩

/-- The codes with which a client may close. -/
def allowedCode (code : Nat) : Bool :=
  [1000, 1001, 1002, 1003, 1007, 1008, 1009, 1010, 1011, 1012, 1013].contains code ||
    (3000 ≤ code && code ≤ 4999)

/-- A close is answered with its own code, or with that of a protocol error. -/
def acceptClose (link : Link) (payload : List UInt8) : Arrival :=
  let close (code : Option Nat) : Arrival :=
    ⟨{ link with finished := true }, [.close], [], some (.closing (.close code))⟩
  match payload with
  | [] => close none
  | [_] => link.fail .shortClose
  | high :: low :: reason =>
    match Text.Utf8.decode reason with
    | .error e => link.fail (.invalidText e.message)
    | .ok _ =>
      let code := high.toNat * 256 + low.toNat
      close (some (if allowedCode code then code else 1002))

def acceptControl (link : Link) (f : Frame) : Arrival :=
  if !f.final then link.fail .fragmentedControl
  else if 125 < f.payload.length then link.fail .controlTooBig
  else match f.opcode with
    | .close => link.acceptClose f.payload
    | .ping => link.more [.ping] [.pong f.payload]
    | _ => link.more [.pong] []

/-- A text that arrives whole. -/
def acceptText (link : Link) (payload : List UInt8) : Arrival :=
  match Text.Utf8.decode payload with
  | .ok _ => link.more [.text] []
  | .error e => link.fail (.invalidText e.message)

/-- The words for a text whose last character is cut off. -/
def cutWords (bytes : List UInt8) : String :=
  let shown := (bytes ++ List.replicate (4 - bytes.length) 0).map fun (b : UInt8) =>
    Text.naturalText b.toNat
  "incomplete string: Incomplete \x7b buffer: [" ++ ", ".intercalate shown ++ "], buffer_len: " ++
    Text.naturalText bytes.length ++ " \x7d"

/-- Adds a fragment to a message. Text is checked as it comes, but for a character that is cut. -/
def collect (link : Link) (kind : Opcode) (collected : List UInt8) (final : Bool) : Arrival :=
  if messageLimit < collected.length then link.fail (.tooLong collected.length messageLimit)
  else
    let kept : Link := { link with fragments := some (kind, collected) }
    let done : Link := { link with fragments := none }
    if kind = .binary then if final then done.more [.binary] [] else kept.more [] []
    else match Text.Utf8.decode collected with
      | .ok _ => if final then done.more [.text] [] else kept.more [] []
      | .error ⟨_, some _⟩ =>
        done.fail (.invalidText (String.ofList [Text.Utf8.replacement]))
      | .error ⟨index, none⟩ =>
        if final then done.fail (.invalidText (cutWords (collected.drop index)))
        else kept.more [] []

def acceptData (link : Link) (f : Frame) : Arrival :=
  match f.opcode, link.fragments with
  | .continuation, none => link.fail .nothingToContinue
  | .continuation, some (kind, collected) => link.collect kind (collected ++ f.payload) f.final
  | first, some _ => link.fail (.messageInside first)
  | kind, none =>
    if f.final then if kind = .binary then link.more [.binary] [] else link.acceptText f.payload
    else link.collect kind f.payload false

def accept (link : Link) (f : Frame) : Arrival :=
  if f.reserved then link.fail .reservedBits
  else if f.opcode.isControl then link.acceptControl f
  else link.acceptData f

/-- Reads at most so many frames. -/
def readFrames : Nat → Link → Arrival
  | 0, link => link.more [] []
  | n + 1, link =>
    if link.finished then link.more [] []
    else match Frame.scan link.unread with
      | .incomplete => link.more [] []
      | .violation why => link.fail why
      | .frame f rest =>
        let first := accept { link with unread := rest } f
        let others := readFrames n first.link
        ⟨others.link, first.messages ++ others.messages, first.replies ++ others.replies,
          first.ending.or others.ending⟩

/-- Bytes arrive. A frame has at least two, so their number bounds that of the frames. -/
def feed (link : Link) (bytes : List UInt8) : Arrival :=
  let link := { link with unread := link.unread ++ bytes }
  readFrames link.unread.length link

/-- The connection is gone. -/
def lose (link : Link) : Arrival :=
  if link.finished then link.more [] [] else { link.fail .reset with ending := some .lost }

end Link
end LiveUpdate.WebSocket
