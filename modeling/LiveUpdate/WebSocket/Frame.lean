import LiveUpdate.BigEndian
import LiveUpdate.Text.Utf8
import LiveUpdate.Text.Numeral

/-! The frames of the WebSocket protocol, read off a sequence of bytes. -/
namespace LiveUpdate.WebSocket

inductive Opcode
  | continuation | text | binary | close | ping | pong
  deriving DecidableEq, Repr

namespace Opcode

def ofNat? : Nat → Option Opcode
  | 0 => some continuation
  | 1 => some text
  | 2 => some binary
  | 8 => some close
  | 9 => some ping
  | 10 => some pong
  | _ => none

def toNat : Opcode → Nat
  | continuation => 0
  | text => 1
  | binary => 2
  | close => 8
  | ping => 9
  | pong => 10

def isControl : Opcode → Bool
  | close | ping | pong => true
  | _ => false

end Opcode

/-- What is wrong with the bytes that arrive. -/
inductive Violation
  | invalidOpcode (code : Nat)
  | tooLong (size limit : Nat)
  | unmasked
  | reservedBits
  | fragmentedControl
  | controlTooBig
  | nothingToContinue
  | messageInside (first : Opcode)
  | shortClose
  | invalidText (words : String)
  /-- The connection is gone without a closing handshake. -/
  | reset
  deriving DecidableEq, Repr

def Violation.message : Violation → String
  | invalidOpcode code => protocol ("Encountered invalid opcode: " ++ Text.naturalText code)
  | tooLong size limit =>
    "Space limit exceeded: Message too long: " ++ Text.naturalText size ++ " > " ++
      Text.naturalText limit
  | unmasked => protocol "Received an unmasked frame from client"
  | reservedBits => protocol "Reserved bits are non-zero"
  | fragmentedControl => protocol "Fragmented control frame"
  | controlTooBig => protocol "Control frame too big (payload must be 125 bytes or less)"
  | nothingToContinue => protocol "Continue frame but nothing to continue"
  | messageInside first =>
    protocol ("While waiting for more fragments received: " ++
      (if first = .binary then "BINARY" else "TEXT"))
  | shortClose => protocol "Invalid close sequence"
  | invalidText words => "UTF-8 encoding error: " ++ words
  | reset => protocol "Connection reset without closing handshake"
where
  protocol (words : String) : String := "WebSocket protocol error: " ++ words

structure Frame where
  final : Bool
  reserved : Bool
  opcode : Opcode
  payload : List UInt8
  deriving DecidableEq, Repr

/-- The largest payload of a frame, and of a message put together from frames. -/
def frameLimit : Nat := 16 * 1024 * 1024

def messageLimit : Nat := 64 * 1024 * 1024

/-- What stands at the front of the bytes. -/
inductive Scanned
  | incomplete
  | violation (why : Violation)
  | frame (f : Frame) (rest : List UInt8)
  deriving DecidableEq, Repr

/-- So many bytes from the front and the rest, if there are as many. -/
def takeExactly (n : Nat) (bytes : List UInt8) : Option (List UInt8 × List UInt8) :=
  if n ≤ bytes.length then some (bytes.take n, bytes.drop n) else none

/-- Combines a payload with the four bytes of a mask, over and over. -/
def applyMask (mask payload : List UInt8) : List UInt8 :=
  payload.zipIdx.map fun (b, i) => b ^^^ mask.getD (i % 4) 0

/-- The bytes of the length that follow the second byte of a frame. -/
def lengthBytes (short : Nat) : Nat := if short = 126 then 2 else if short = 127 then 8 else 0

namespace Frame

/-- The payload and what is after it, once the header has been read. Clients have to mask theirs. -/
def scanPayload (final reserved : Bool) (opcode : Opcode) (length : Nat)
    (mask : Option (List UInt8)) (bytes : List UInt8) : Scanned :=
  if frameLimit < length then .violation (.tooLong length frameLimit)
  else match takeExactly length bytes, mask with
    | none, _ => .incomplete
    | some _, none => .violation .unmasked
    | some (payload, rest), some mask =>
      .frame ⟨final, reserved, opcode, applyMask mask payload⟩ rest

/-- The first frame of a sequence of bytes. -/
def scan : List UInt8 → Scanned
  | first :: second :: bytes =>
    let short := second.toNat % 128
    let masked := 128 ≤ second.toNat
    match takeExactly (lengthBytes short) bytes with
    | none => .incomplete
    | some (long, bytes) =>
      let length := if lengthBytes short = 0 then short else BigEndian.value long
      match takeExactly (if masked then 4 else 0) bytes with
      | none => .incomplete
      | some (mask, bytes) =>
        let code := first.toNat % 16
        match Opcode.ofNat? code with
        | none => .violation (.invalidOpcode code)
        | some opcode =>
          scanPayload (128 ≤ first.toNat) (first.toNat / 16 % 8 ≠ 0) opcode length
            (if masked then some mask else none) bytes
  | _ => .incomplete

/-- The length of a payload as it is written; the bit in front announces a mask. -/
def writeLength (masked : Bool) (n : Nat) : List UInt8 :=
  let bit := if masked then 128 else 0
  if n < 126 then [UInt8.ofNat (bit + n)]
  else if n < UInt16.size then UInt8.ofNat (bit + 126) :: BigEndian.bytes 2 n
  else UInt8.ofNat (bit + 127) :: BigEndian.bytes 8 n

/-- An unfragmented frame as a client writes it; a mask of zeros leaves the payload as it is. -/
def write (opcode : Opcode) (payload : List UInt8) : List UInt8 :=
  UInt8.ofNat (128 + opcode.toNat) :: writeLength true payload.length ++ [0, 0, 0, 0] ++ payload

/-- An unfragmented frame as a service writes it, which is without a mask. -/
def writeBare (opcode : Opcode) (payload : List UInt8) : List UInt8 :=
  UInt8.ofNat (128 + opcode.toNat) :: writeLength false payload.length ++ payload

end Frame
end LiveUpdate.WebSocket
