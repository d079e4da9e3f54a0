/-! Sets of characters, given by ranges. -/
namespace StageGate.Text

/-- The first code point and the last. -/
abbrev CodeRange := Nat × Nat

def isAmong (ranges : List CodeRange) (c : Char) : Bool :=
  ranges.any fun (first, last) => first ≤ c.toNat && c.toNat ≤ last

end StageGate.Text
