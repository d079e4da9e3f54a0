import StageGate.Binary64.Shortest

/-! Texts of numbers: positional notation, and the notation of data documents. -/
namespace StageGate.Decimal

/-- All digits in place, with a point only where a fraction follows. -/
def positional (d : Decimal) : List Char :=
  let digits := d.digitChars
  if 0 ≤ d.exponent then digits ++ List.replicate d.exponent.toNat '0'
  else
    let places := (-d.exponent).toNat
    if places < digits.length then
      digits.take (digits.length - places) ++ '.' :: digits.drop (digits.length - places)
    else '0' :: '.' :: List.replicate (places - digits.length) '0' ++ digits

def scientific (d : Decimal) : List Char :=
  let sign := if 0 ≤ d.leading then '+' else '-'
  let power := 'e' :: sign :: Nat.toDigits 10 d.leading.natAbs
  match d.digitChars with
  | [] => power
  | [first] => first :: power
  | first :: rest => first :: '.' :: rest ++ power

end StageGate.Decimal

namespace StageGate

def signed (negative : Bool) (cs : List Char) : String :=
  String.ofList (if negative then '-' :: cs else cs)

/-- Shortest digits, never an exponent; of two equally near the greater. -/
def Binary64.toText : Binary64 → String
  | .finite x => signed x.negative (x.shortest .away).positional
  | .infinite negative => signed negative ['i', 'n', 'f']
  | .nan => "NaN"

/-- Always recognisable as no integer: a fraction, or an exponent below -5 or from 16 on. -/
def Finite64.toText (x : Finite64) : String :=
  let d := x.shortest .even
  let body :=
    if d.leading < -5 ∨ 16 ≤ d.leading then d.scientific
    else if 0 ≤ d.exponent then d.positional ++ ['.', '0']
    else d.positional
  signed x.negative body

end StageGate
