/-! Decimal numerals: an optional sign and one or more digits, with any number of leading zeros. -/
namespace LiveUpdate.Text

def isDigit (c : Char) : Bool := '0' ≤ c && c ≤ '9'

def digitValue (c : Char) : Nat := c.toNat - '0'.toNat

def naturalValue (digits : List Char) : Nat := digits.foldl (fun n c => n * 10 + digitValue c) 0

/-- The number that a non-empty run of digits denotes. -/
def readNatural? (s : List Char) : Option Nat :=
  if s ≠ [] ∧ s.all isDigit then some (naturalValue s) else none

/-- A natural numeral that may carry a plus sign. -/
def readUnsigned? : List Char → Option Nat
  | '+' :: digits => readNatural? digits
  | digits => readNatural? digits

/-- A numeral with an optional sign. -/
def readInteger? : List Char → Option Int
  | '-' :: digits => (readNatural? digits).map fun n => -(n : Int)
  | s => (readUnsigned? s).map fun n => (n : Int)

def integerText (n : Int) : String :=
  match n with
  | .ofNat k => String.ofList (Nat.toDigits 10 k)
  | .negSucc k => String.ofList ('-' :: Nat.toDigits 10 (k + 1))

def naturalText (n : Nat) : String := String.ofList (Nat.toDigits 10 n)

end LiveUpdate.Text
