import StageGate.Binary64

/-! The shortest decimal that reads back as a given number. -/
namespace StageGate

/-- The decimal `digits * 10 ^ exponent`. -/
structure Decimal where
  digits : Nat
  exponent : Int
deriving DecidableEq

namespace Decimal

def dropZeros : Nat → Decimal → Decimal
  | 0, d => d
  | fuel + 1, d =>
    if d.digits ≠ 0 ∧ d.digits % 10 = 0 then dropZeros fuel ⟨d.digits / 10, d.exponent + 1⟩ else d

/-- The same decimal without trailing zeros. -/
def normalize (d : Decimal) : Decimal :=
  if d.digits = 0 then ⟨0, 0⟩ else dropZeros d.digits.log2 d

def digitChars (d : Decimal) : List Char :=
  Nat.toDigits 10 d.digits

/-- The exponent of the first digit. -/
def leading (d : Decimal) : Int :=
  d.digitChars.length + d.exponent - 1

end Decimal

/-- What to do with two shortest decimals that lie equally near. -/
inductive Tie
  | away
  | even
deriving DecidableEq

namespace Finite64

/-- The numbers that round to `x` lie from `lower` to `upper`, in quarters of the last place; the
bounds themselves belong to an even significand. -/
structure Interval where
  lower : Nat
  middle : Nat
  upper : Nat
  closed : Bool
  exponent : Int

def interval (x : Finite64) : Interval :=
  let m := x.significand
  let narrow := m == hidden && x.rank.val > hidden
  { lower := if narrow then 4 * m - 1 else 4 * m - 2
    middle := 4 * m
    upper := 4 * m + 2
    closed := m % 2 == 0
    exponent := x.exponent - 2 }

/-- `n` points of the grid of step `10 ^ k`, and a bound of the interval, on a common scale. -/
def Interval.point (i : Interval) (k : Int) (n : Nat) : Nat :=
  n * tenTo k.toNat * twoTo (-i.exponent).toNat

def Interval.bound (i : Interval) (k : Int) (q : Nat) : Nat :=
  q * twoTo i.exponent.toNat * tenTo (-k).toNat

def Interval.holds (i : Interval) (k : Int) (n : Nat) : Bool :=
  let p := i.point k n
  let lo := i.bound k i.lower
  let hi := i.bound k i.upper
  (lo < p && p < hi) || (i.closed && (p == lo || p == hi))

/-- The point of the grid of step `10 ^ k` that stands for the interval, if the grid has one. Only
the two neighbours of the middle come into question. -/
def Interval.onGrid (i : Interval) (tie : Tie) (k : Int) : Option Nat :=
  let middle := i.bound k i.middle
  let down := middle / i.point k 1
  let up := down + 1
  let below := middle - i.point k down
  let above := i.point k up - middle
  match down != 0 && i.holds k down, i.holds k up with
  | true, true =>
    if below < above then some down
    else if above < below then some up
    else match tie with
      | .away => some up
      | .even => some (if down % 2 = 0 then down else up)
  | true, false => some down
  | false, true => some up
  | false, false => none

/-- The first grid that has a point, from step `10 ^ k` on to finer ones. -/
def Interval.coarsest (i : Interval) (tie : Tie) : Nat → Int → Decimal
  | 0, _ => ⟨0, 0⟩
  | tries + 1, k =>
    match i.onGrid tie k with
    | some n => ⟨n, k⟩
    | none => i.coarsest tie tries (k - 1)

/-- The magnitude in the fewest digits that read back. Steps start above the number, and seventeen
digits always do. -/
def shortest (x : Finite64) (tie : Tie) : Decimal :=
  if x.isZero then ⟨0, 0⟩
  else
    let top := x.significand.log2 + x.exponent + 1
    (x.interval.coarsest tie 24 ((top * 30103).fdiv 100000 + 1)).normalize

end Finite64
end StageGate
