import StageGate.Power

/-! Binary64 numbers in exact arithmetic on natural numbers. A magnitude is kept as its rank among
all magnitudes, so order and equality need no arithmetic at all. -/
namespace StageGate

/-- The rank of the magnitude above all finite ones. -/
def Binary64.infinityRank : Nat := 0x7FF0000000000000

/-- A finite number: its sign and how many magnitudes lie below its own. -/
structure Finite64 where
  negative : Bool
  rank : Fin Binary64.infinityRank
deriving DecidableEq

inductive Binary64
  | finite (x : Finite64)
  | infinite (negative : Bool)
  | nan
deriving DecidableEq

namespace Finite64

def zero : Finite64 := ⟨false, ⟨0, by decide⟩⟩

/-- The value of the leading bit of a full significand. -/
def hidden : Nat := 0x10000000000000

/-- The magnitude is `significand * 2 ^ exponent`. -/
def significand (x : Finite64) : Nat :=
  if x.rank.val < hidden then x.rank.val else hidden + x.rank.val % hidden

def exponent (x : Finite64) : Int :=
  if x.rank.val < hidden then -1074 else x.rank.val / hidden - 1075

def isZero (x : Finite64) : Bool :=
  x.rank.val == 0

/-- The magnitude as a quotient of natural numbers. -/
def numerator (x : Finite64) : Nat :=
  x.significand * twoTo x.exponent.toNat

def denominator (x : Finite64) : Nat :=
  twoTo (-x.exponent).toNat

def neg (x : Finite64) : Finite64 :=
  { x with negative := !x.negative }

end Finite64

namespace Binary64

/-- The quotient `num / den` in units of `2 ^ e`, as a quotient of its own. -/
def inUnits (num den : Nat) (e : Int) : Nat × Nat :=
  (num * twoTo (-e).toNat, den * twoTo e.toNat)

/-- The unit of the last place of `num / den`: the significand in it has 53 bits, or fewer at the
least exponent. -/
def lastPlace (num den : Nat) : Int :=
  let low : Int := num.log2 - den.log2 - 53
  let (n, d) := inUnits num den low
  max (-1074) (if n / d < 2 * Finite64.hidden then low else low + 1)

/-- The rank of the magnitude nearest to `num / den`; a tie goes to the even significand. -/
def nearestRank (num den : Nat) : Nat :=
  let e := lastPlace num den
  let (n, d) := inUnits num den e
  let m := n / d
  let twice := 2 * (n % d)
  let up := twice > d || (twice == d && m % 2 == 1)
  (e + 1074).toNat * Finite64.hidden + if up then m + 1 else m

def ofQuotient (negative : Bool) (num den : Nat) : Binary64 :=
  if num = 0 then .finite { Finite64.zero with negative }
  else
    let rank := nearestRank num den
    if h : rank < infinityRank then .finite ⟨negative, ⟨rank, h⟩⟩ else .infinite negative

def ofInt (i : Int) : Binary64 :=
  ofQuotient (i < 0) i.natAbs 1

/-- The position in the order of all numbers but NaN; both zeros have the same. -/
def position? : Binary64 → Option Int
  | .finite x => some (if x.negative then -(x.rank.val : Int) else x.rank.val)
  | .infinite negative => some (if negative then -(infinityRank : Int) else infinityRank)
  | .nan => none

/-- NaN compares with nothing. -/
def compare? (a b : Binary64) : Option Ordering := do
  return compare (← a.position?) (← b.position?)

end Binary64

namespace Finite64

def mul (x y : Finite64) : Binary64 :=
  .ofQuotient (x.negative != y.negative) (x.numerator * y.numerator) (x.denominator * y.denominator)

/-- The divisor is taken not to be zero. -/
def div (x y : Finite64) : Binary64 :=
  .ofQuotient (x.negative != y.negative) (x.numerator * y.denominator) (x.denominator * y.numerator)

end Finite64
end StageGate
