/-! Bytes as text over sixty-four characters, three bytes to four characters. -/
namespace LiveUpdate.Text.Base64

def alphabet : List Char :=
  "ABCDEFGHIJKLMNOPQRSTUVWXYZabcdefghijklmnopqrstuvwxyz0123456789+/".toList

/-- The character for the six bits of a number that start at a weight. -/
def digit (n weight : Nat) : Char := alphabet.getD (n / weight % 64) '='

/-- The last group is filled up with equals signs. -/
def encode : List UInt8 → List Char
  | [] => []
  | [a] =>
    let n := a.toNat * 65536
    [digit n 262144, digit n 4096, '=', '=']
  | [a, b] =>
    let n := a.toNat * 65536 + b.toNat * 256
    [digit n 262144, digit n 4096, digit n 64, '=']
  | a :: b :: c :: rest =>
    let n := a.toNat * 65536 + b.toNat * 256 + c.toNat
    digit n 262144 :: digit n 4096 :: digit n 64 :: digit n 1 :: encode rest

end LiveUpdate.Text.Base64
