/-! Whole numbers in plain text. -/
namespace StageGate.Text

def digitsValue (cs : List Char) : Nat :=
  cs.foldl (fun n c => 10 * n + (c.toNat - 48)) 0

/-- One or more digits and nothing else. -/
def natural? (cs : List Char) : Option Nat :=
  if !cs.isEmpty && cs.all Char.isDigit then some (digitsValue cs) else none

/-- Whether the text starts with a minus, and what follows an optional sign. -/
def splitSign : List Char → Bool × List Char
  | '-' :: cs => (true, cs)
  | '+' :: cs => (false, cs)
  | cs => (false, cs)

/-- Digits behind an optional sign, within 64 bits. -/
def int64? (cs : List Char) : Option Int64 := do
  let (negative, cs) := splitSign cs
  let n ← natural? cs
  let i : Int := if negative then -n else n
  if -0x8000000000000000 ≤ i ∧ i < 0x8000000000000000 then some (Int64.ofInt i) else none

/-- A place in a list: digits behind an optional plus. -/
def index? : List Char → Option Nat
  | '+' :: cs => natural? cs
  | cs => natural? cs

end StageGate.Text
