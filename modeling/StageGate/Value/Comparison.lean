import StageGate.Error
import StageGate.Binary64.Reader
import StageGate.Text.Lower
import StageGate.Value

/-! Conditions on values. Equality compares trimmed text forms; order first brings the expected
value to the kind of the actual one. -/
namespace StageGate

inductive Operator
  | equal
  | notEqual
  | above
  | atLeast
  | below
  | atMost
deriving DecidableEq

namespace Operator

def symbol : Operator → String
  | equal => "=="
  | notEqual => "!="
  | above => ">"
  | atLeast => ">="
  | below => "<"
  | atMost => "<="

def all : List Operator :=
  [equal, notEqual, above, atLeast, below, atMost]

def read (text : String) : Except Error Operator :=
  match all.find? (·.symbol == Text.trim text) with
  | some op => .ok op
  | none => .error (.unsupportedOperator (Text.trim text))

end Operator

namespace Value

def trimmedText (v : Value) : String :=
  Text.trim v.toText

/-- The expected value in the kind of the actual one, where that makes sense. -/
def coerce (expected like : Value) : Option Value :=
  match like, expected with
  | string _, _ => some (string expected.toText)
  | int _, string s =>
    let cs := Text.trimChars s.toList
    (Text.int64? cs).map int <|> (Binary64.read cs).map float
  | int _, bool b => some (int (if b then 1 else 0))
  | float _, string s => (Binary64.read (Text.trimChars s.toList)).map float
  | float _, bool b => some (float (.ofInt (if b then 1 else 0)))
  | bool _, bool b => some (bool b)
  | bool _, string s =>
    let word := Text.lower (Text.trim s)
    if word = "true" then some (bool true) else if word = "false" then some (bool false) else none
  | bool _, int n => some (bool (n != 0))
  | dateTime _, dateTime t => some (dateTime t)
  | dateTime _, string s => (DateTime.read? s).map dateTime
  | _, _ => none

def compareNumbers (a b : Binary64) : Except Error Ordering :=
  match a.compare? b with
  | some o => .ok o
  | none => .error (.notComparable (.notANumber a b))

/-- The order of two values of one kind. -/
def compareAlike (actual expected : Value) : Except Error Ordering :=
  match actual.number?, expected.number? with
  | some a, some b => compareNumbers a b
  | _, _ =>
    match actual, expected with
    | bool a, bool b => .ok (compare a b)
    | string a, string b => .ok (compare a b)
    | dateTime a, dateTime b => .ok (a.compare b)
    | _, _ => .error (.typeMismatch (.order actual.kind expected.kind))

/-- Whether values of this kind have an order at all. -/
def isOrdered : Value → Bool
  | null | list _ | record _ => false
  | _ => true

def compareTo (actual expected : Value) : Except Error Ordering :=
  match actual.number?, expected.number? with
  | some a, some b => compareNumbers a b
  | _, _ =>
    if !actual.isOrdered then .error (.notComparable (.unorderedKind actual.kind))
    else if expected.isNull then .error (.notComparable .againstNull)
    else compareAlike actual ((expected.coerce actual).getD expected)

/-- A null value satisfies no condition. -/
def satisfies (actual : Value) (op : Operator) (expected : Value) : Except Error Bool :=
  if actual.isNull then .ok false
  else
    match op with
    | .equal => .ok (actual.trimmedText == expected.trimmedText)
    | .notEqual => .ok (actual.trimmedText != expected.trimmedText)
    | .above => return (← actual.compareTo expected) == .gt
    | .atLeast => return (← actual.compareTo expected) != .lt
    | .below => return (← actual.compareTo expected) == .lt
    | .atMost => return (← actual.compareTo expected) != .gt

/-- The operator is not looked at when the value is null. -/
def test (actual : Value) (operator : String) (expected : Value) : Except Error Bool :=
  if actual.isNull then .ok false
  else do
    let op ← Operator.read operator
    actual.satisfies op expected

end Value
end StageGate
