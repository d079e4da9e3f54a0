import StageGate.DateTime
import StageGate.Power
import StageGate.Text.Blank
import StageGate.Text.Number

/-! Reading dates and date-times. An offset from universal time is checked and dropped. -/
namespace StageGate.DateTime

open Text

/-- The date and time with these fields; a second 60 is the leap second after second 59. -/
def ofFields? (year : Int) (month day hour minute second fraction : Nat) : Option DateTime :=
  let (second, nanosecond) :=
    if second = 60 then (59, 1000000000 + fraction) else (second, fraction)
  if hd : IsDate year month day then
    if hc : IsClock hour minute second nanosecond then
      some ⟨⟨year, month, day, hd⟩, ⟨hour, minute, second, nanosecond, hc⟩⟩
    else none
  else none

abbrev Scan := StateT (List Char) Option

namespace Scan

def literal (c : Char) : Scan Unit := do
  match ← get with
  | [] => failure
  | d :: rest => if d = c then set rest else failure

/-- From `least` up to `most` digits. -/
def digits (least most : Nat) : Scan (List Char) := do
  let rest ← get
  let found := (rest.takeWhile Char.isDigit).take most
  if found.length < least then failure
  set (rest.drop found.length)
  return found

def exactly (width : Nat) : Scan Nat := do
  return digitsValue (← digits width width)

/-- One digit or two, behind blanks. -/
def field : Scan Nat := do
  modify trimLeft
  return digitsValue (← digits 1 2)

/-- Up to four digits, or any number of them behind a sign. -/
def yearField : Scan Int := do
  modify trimLeft
  match ← get with
  | '-' :: rest =>
    set rest
    return -(digitsValue (← digits 1 rest.length))
  | '+' :: rest =>
    set rest
    return digitsValue (← digits 1 rest.length)
  | _ => return digitsValue (← digits 1 4)

/-- Nanoseconds from a point and digits, of which the first nine count; zero without a point. -/
def fraction : Scan Nat := do
  match ← get with
  | '.' :: rest =>
    set rest
    let found ← digits 1 9
    modify (·.dropWhile Char.isDigit)
    return digitsValue found * tenTo (9 - found.length)
  | _ => return 0

/-- `Z`, or a sign, hours and minutes, less than a day. -/
def offset : Scan Unit := do
  match ← get with
  | [] => failure
  | c :: rest =>
    set rest
    if c = 'Z' ∨ c = 'z' then return ()
    else if c = '+' ∨ c = '-' ∨ c = '−' then
      let hours ← exactly 2
      literal ':'
      let minutes ← exactly 2
      if hours < 24 ∧ minutes < 60 then return () else failure
    else failure

/-- The form with fixed widths and an offset. -/
def exchanged : Scan DateTime := do
  let year ← exactly 4
  literal '-'
  let month ← exactly 2
  literal '-'
  let day ← exactly 2
  match ← get with
  | [] => failure
  | c :: rest => if c = 'T' ∨ c = 't' ∨ c = ' ' then set rest else failure
  let hour ← exactly 2
  literal ':'
  let minute ← exactly 2
  literal ':'
  let second ← exactly 2
  let fraction ← fraction
  offset
  ofFields? year month day hour minute second fraction

def calendarDate : Scan (Int × Nat × Nat) := do
  let year ← yearField
  literal '-'
  let month ← field
  literal '-'
  return (year, month, ← field)

def timeOfDay : Scan (Nat × Nat × Nat × Nat) := do
  let hour ← field
  literal ':'
  let minute ← field
  literal ':'
  let second ← field
  return (hour, minute, second, ← fraction)

/-- A date and a time of day with `separator` read between them. -/
def wallClock (separator : Scan Unit) : Scan DateTime := do
  let (year, month, day) ← calendarDate
  separator
  let (hour, minute, second, fraction) ← timeOfDay
  ofFields? year month day hour minute second fraction

def dateOnly : Scan DateTime := do
  let (year, month, day) ← calendarDate
  ofFields? year month day 0 0 0 0

/-- The form fits if nothing is left over. -/
def whole (form : Scan DateTime) (cs : List Char) : Option DateTime :=
  match form.run cs with
  | some (t, []) => some t
  | _ => none

end Scan

/-- The first of the four forms that fits the trimmed text, which has ten bytes at least. -/
def read? (s : String) : Option DateTime :=
  let cs := trimChars s.toList
  if (String.ofList cs).utf8ByteSize < 10 then none
  else
    Scan.exchanged.whole cs <|> (Scan.wallClock (Scan.literal 'T')).whole cs <|>
      (Scan.wallClock (modify trimLeft)).whole cs <|> Scan.dateOnly.whole cs

end StageGate.DateTime
