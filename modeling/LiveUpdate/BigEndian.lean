/-! Numbers as bytes, the most significant byte first. -/
namespace LiveUpdate.BigEndian

def value (bytes : List UInt8) : Nat := bytes.foldl (fun n b => n * 256 + b.toNat) 0

/-- The last bytes of a number, so many of them. -/
def bytes : Nat → Nat → List UInt8
  | 0, _ => []
  | size + 1, n => bytes size (n / 256) ++ [UInt8.ofNat (n % 256)]

end LiveUpdate.BigEndian
