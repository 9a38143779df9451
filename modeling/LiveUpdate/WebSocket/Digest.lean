import LiveUpdate.BigEndian

/-! The digest SHA-1, with which a service shows a client that it speaks the WebSocket protocol. -/
namespace LiveUpdate.WebSocket

structure Digest where
  a : UInt32
  b : UInt32
  c : UInt32
  d : UInt32
  e : UInt32
  deriving DecidableEq, Repr

namespace Digest

def initial : Digest := ⟨0x67452301, 0xEFCDAB89, 0x98BADCFE, 0x10325476, 0xC3D2E1F0⟩

def rotateLeft (x : UInt32) (n : UInt32) : UInt32 := (x <<< n) ||| (x >>> (32 - n))

/-- A message is followed by a single bit, by zeros, and by its length in bits; that makes whole
blocks of 64 bytes. -/
def pad (message : List UInt8) : List UInt8 :=
  message ++ 0x80 :: List.replicate ((119 - message.length % 64) % 64) 0 ++
    BigEndian.bytes 8 (8 * message.length)

def words : List UInt8 → List UInt32
  | a :: b :: c :: d :: rest =>
    UInt32.ofNat (BigEndian.value [a, b, c, d]) :: words rest
  | _ => []

/-- The next word of a schedule, given all before it from the last to the first. -/
def nextWord (earlier : List UInt32) : UInt32 :=
  rotateLeft (earlier.getD 2 0 ^^^ earlier.getD 7 0 ^^^ earlier.getD 13 0 ^^^ earlier.getD 15 0) 1

/-- The eighty words that a block of sixteen spreads out to. -/
def schedule (block : List UInt32) : List UInt32 :=
  ((List.range 64).foldl (fun earlier _ => nextWord earlier :: earlier) block.reverse).reverse

def choose (t : Nat) (s : Digest) : UInt32 :=
  if t < 20 then ((s.b &&& s.c) ||| (~~~s.b &&& s.d)) + 0x5A827999
  else if t < 40 then (s.b ^^^ s.c ^^^ s.d) + 0x6ED9EBA1
  else if t < 60 then ((s.b &&& s.c) ||| (s.b &&& s.d) ||| (s.c &&& s.d)) + 0x8F1BBCDC
  else (s.b ^^^ s.c ^^^ s.d) + 0xCA62C1D6

def round (s : Digest) (word : UInt32 × Nat) : Digest :=
  ⟨rotateLeft s.a 5 + choose word.2 s + s.e + word.1, s.a, rotateLeft s.b 30, s.c, s.d⟩

def absorb (s : Digest) (block : List UInt32) : Digest :=
  let r := (schedule block).zipIdx.foldl round s
  ⟨s.a + r.a, s.b + r.b, s.c + r.c, s.d + r.d, s.e + r.e⟩

def blocks (ws : List UInt32) : List (List UInt32) :=
  (List.range (ws.length / 16)).map fun i => (ws.drop (16 * i)).take 16

def ofMessage (message : List UInt8) : Digest := (blocks (words (pad message))).foldl absorb initial

def bytes (s : Digest) : List UInt8 :=
  [s.a, s.b, s.c, s.d, s.e].flatMap fun word => BigEndian.bytes 4 word.toNat

end Digest
end LiveUpdate.WebSocket
