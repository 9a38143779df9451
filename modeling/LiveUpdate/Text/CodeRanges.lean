/-! Sets of characters given as ascending lists of inclusive code point ranges. -/
namespace LiveUpdate.Text

abbrev CodeRanges := List (Nat × Nat)

/-- Whether some range of the list holds the code point of the character. -/
def CodeRanges.contains (ranges : CodeRanges) (c : Char) : Bool :=
  ranges.any fun (first, last) => first ≤ c.toNat && c.toNat ≤ last

end LiveUpdate.Text
