import StageGate.DateTime.Span
import StageGate.Error
import StageGate.Text.Lower

/-! Names of the units of spans. -/
namespace StageGate.SpanUnit

def read (text : String) : Except Error SpanUnit :=
  let word := Text.lower (Text.trim text)
  if word = "days" then .ok days
  else if word = "months" then .ok months
  else if word = "years" then .ok years
  else .error (.unsupportedUnit text)

end StageGate.SpanUnit
