import StageGate.Binary64
import StageGate.Text.Number

/-! Reading numbers from plain text. -/
namespace StageGate.Binary64

open Text

/-- The number nearest to `digits * 10 ^ exponent`. Exponents far outside the range are settled
without computing their power. -/
def ofScientific (negative : Bool) (digits : Nat) (exponent : Int) : Binary64 :=
  if digits = 0 then ofQuotient negative 0 1
  else
    let leading : Int := digits.log2 / 3 + exponent
    let decimals : Int := digits.log2 / 4 + exponent
    if decimals > 400 then .infinite negative
    else if leading < -400 then ofQuotient negative 0 1
    else ofQuotient negative (digits * tenTo exponent.toNat) (tenTo (-exponent).toNat)

/-- The exponent behind the digits: none, or `e`, an optional sign and digits. -/
def readExponent : List Char → Option Int
  | [] => some 0
  | c :: cs =>
    if c = 'e' ∨ c = 'E' then do
      let (negative, cs) := splitSign cs
      let n ← natural? cs
      return if negative then -n else n
    else none

def readUnsigned (negative : Bool) (cs : List Char) : Option Binary64 :=
  let word := cs.map Char.toLower
  if word = "inf".toList ∨ word = "infinity".toList then some (.infinite negative)
  else if word = "nan".toList then some .nan
  else do
    let whole := cs.takeWhile Char.isDigit
    let rest := cs.dropWhile Char.isDigit
    let (places, rest) :=
      match rest with
      | '.' :: rest => (rest.takeWhile Char.isDigit, rest.dropWhile Char.isDigit)
      | rest => ([], rest)
    if (whole ++ places).isEmpty then none
    let exponent ← readExponent rest
    return ofScientific negative (digitsValue (whole ++ places)) (exponent - places.length)

/-- Digits with an optional sign, point and exponent, or a name of infinity or NaN in any case. -/
def read (cs : List Char) : Option Binary64 :=
  let (negative, cs) := splitSign cs
  readUnsigned negative cs

end StageGate.Binary64
