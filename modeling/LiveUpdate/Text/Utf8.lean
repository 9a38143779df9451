/-! UTF-8 over lists of bytes. A byte sequence is cut into pieces: whole characters, and the longest
beginnings of a character that cannot be finished. Strict decoding refuses at the first such piece,
lossy decoding puts a replacement character in its place. -/
namespace LiveUpdate.Text.Utf8

inductive Piece
  | char (c : Char)
  /-- So many bytes begin no character together with the byte after them. -/
  | broken (size : Nat)
  /-- The bytes end inside a character, of which they hold so many bytes. -/
  | cut (size : Nat)
  deriving DecidableEq, Repr

/-- A character of which `taken` bytes are read and `owed + 1` are still to come. -/
structure Partial where
  owed : Nat
  low : Nat
  high : Nat
  value : Nat
  taken : Nat
  deriving DecidableEq, Repr

inductive Lead
  | char (c : Char)
  | begins (p : Partial)
  | invalid
  deriving DecidableEq, Repr

/-- What a byte between two characters stands for; overlong forms and surrogates are shut out by
the narrowed range of the second byte. -/
def lead (b : UInt8) : Lead :=
  let n := b.toNat
  if n < 0x80 then .char (Char.ofNat n)
  else if n < 0xC2 then .invalid
  else if n < 0xE0 then .begins ⟨0, 0x80, 0xBF, n - 0xC0, 1⟩
  else if n = 0xE0 then .begins ⟨1, 0xA0, 0xBF, 0, 1⟩
  else if n = 0xED then .begins ⟨1, 0x80, 0x9F, 0xD, 1⟩
  else if n < 0xF0 then .begins ⟨1, 0x80, 0xBF, n - 0xE0, 1⟩
  else if n = 0xF0 then .begins ⟨2, 0x90, 0xBF, 0, 1⟩
  else if n < 0xF4 then .begins ⟨2, 0x80, 0xBF, n - 0xF0, 1⟩
  else if n = 0xF4 then .begins ⟨2, 0x80, 0x8F, 4, 1⟩
  else .invalid

/-- Continues a character by one byte, or answers `none` if that byte does not belong to it. -/
def Partial.next (p : Partial) (b : UInt8) : Option Lead :=
  if p.low ≤ b.toNat ∧ b.toNat ≤ p.high then
    let value := p.value * 64 + (b.toNat - 0x80)
    match p.owed with
    | 0 => some (.char (Char.ofNat value))
    | n + 1 => some (.begins ⟨n, 0x80, 0xBF, value, p.taken + 1⟩)
  else none

/-- The pieces of a byte sequence that follows a partly read character. -/
def piecesFrom : Option Partial → List UInt8 → List Piece
  | none, [] => []
  | some p, [] => [.cut p.taken]
  | none, b :: rest =>
    match lead b with
    | .char c => .char c :: piecesFrom none rest
    | .begins p => piecesFrom (some p) rest
    | .invalid => .broken 1 :: piecesFrom none rest
  | some p, b :: rest =>
    match p.next b with
    | some (.char c) => .char c :: piecesFrom none rest
    | some (.begins q) => piecesFrom (some q) rest
    | some .invalid => .broken p.taken :: piecesFrom none rest
    | none =>
      .broken p.taken ::
        match lead b with
        | .char c => .char c :: piecesFrom none rest
        | .begins q => piecesFrom (some q) rest
        | .invalid => .broken 1 :: piecesFrom none rest

def pieces (bytes : List UInt8) : List Piece := piecesFrom none bytes

/-- Where strict decoding stops: the bytes before it are text, and `size` bytes are wrong, or the
sequence ends too early. -/
structure Failure where
  index : Nat
  size : Option Nat
  deriving DecidableEq, Repr

def assemble (index : Nat) : List Piece → Except Failure (List Char)
  | [] => .ok []
  | .char c :: rest => (assemble (index + c.utf8Size) rest).map (c :: ·)
  | .broken size :: _ => .error ⟨index, some size⟩
  | .cut _ :: _ => .error ⟨index, none⟩

def decode (bytes : List UInt8) : Except Failure (List Char) := assemble 0 (pieces bytes)

def replacement : Char := Char.ofNat 0xFFFD

def Piece.shown : Piece → Char
  | .char c => c
  | _ => replacement

def decodeLossy (bytes : List UInt8) : List Char := (pieces bytes).map Piece.shown

def encode (text : List Char) : List UInt8 := text.flatMap String.utf8EncodeChar

def Failure.message (f : Failure) : String :=
  match f.size with
  | some size => s!"invalid utf-8 sequence of {size} bytes from index {f.index}"
  | none => s!"incomplete utf-8 byte sequence from index {f.index}"

end LiveUpdate.Text.Utf8
