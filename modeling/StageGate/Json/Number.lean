import StageGate.Json
import StageGate.Text.Number

/-! The value of a number as written in a document. The significand keeps 64 bits of the digits, and
is scaled by a power of ten that is itself a binary64 number, so the result may be off by a few
units of the last place. -/
namespace StageGate.Json

/-- A significand and the power of ten that goes with it. -/
structure Scaled where
  significand : Nat
  power : Int

def largestSignificand : Nat := 0xFFFFFFFFFFFFFFFF

/-- Digits in front of the point. From the first that does not fit, digits only raise the power. -/
def Scaled.ofWhole (digits : List Nat) : Scaled :=
  digits.foldl (fun s d =>
    if s.power = 0 ∧ 10 * s.significand + d ≤ largestSignificand then ⟨10 * s.significand + d, 0⟩
    else ⟨s.significand, s.power + 1⟩) ⟨0, 0⟩

/-- Digits behind the point. From the first that does not fit, digits are dropped. -/
def Scaled.withPlaces : Scaled → List Nat → Scaled
  | s, [] => s
  | s, d :: digits =>
    if 10 * s.significand + d ≤ largestSignificand then
      withPlaces ⟨10 * s.significand + d, s.power - 1⟩ digits
    else s

def powerOfTen (k : Nat) : Finite64 :=
  match Binary64.ofQuotient false (tenTo k) 1 with
  | .finite x => x
  | _ => Finite64.zero

def orZero : Binary64 → Finite64
  | .finite x => x
  | _ => Finite64.zero

/-- The number times `10 ^ power`, or nothing where it leaves the range. Each round divides by the
greatest power there is, and the third leaves zero. -/
def scale : Nat → Finite64 → Int → Option Finite64
  | 0, _, _ => some Finite64.zero
  | rounds + 1, x, power =>
    if 0 ≤ power ∧ power ≤ 308 then
      match x.mul (powerOfTen power.toNat) with
      | .finite y => some y
      | _ => none
    else if -308 ≤ power ∧ power < 0 then some (orZero (x.div (powerOfTen (-power).toNat)))
    else if x.isZero then some x
    else if 0 < power then none
    else scale rounds (orZero (x.div (powerOfTen 308))) (power + 308)

def Scaled.toFloat (negative : Bool) (s : Scaled) : Option Finite64 := do
  let x ← scale 4 (orZero (.ofInt s.significand)) s.power
  return if negative then x.neg else x

/-- A number without point and exponent: whole if it fits, and minus zero is no whole number. -/
def integer (negative : Bool) (s : Scaled) : Option Json :=
  let i : Int := if negative then -s.significand else s.significand
  if s.power = 0 ∧ ¬(negative ∧ s.significand = 0) then
    match Whole.ofInt? i with
    | some n => some (whole n)
    | none => (s.toFloat negative).map float
  else (s.toFloat negative).map float

end StageGate.Json
