import StageGate.Text.Blank
import StageGate.Text.Lower

/-! The journal that a run leaves behind. -/
namespace StageGate

inductive Level
  | info
  | debug
  | warn
  | error
  | success
deriving DecidableEq

namespace Level

def label : Level → String
  | info => "INFO"
  | debug => "DEBUG"
  | warn => "WARN"
  | error => "ERROR"
  | success => "SUCCESS"

/-- The level a rule asks for; a name that is not known means `info`. -/
def read (text : String) : Level :=
  let word := Text.lower (Text.trim text)
  if word = "debug" then debug
  else if word = "warn" ∨ word = "warning" then warn
  else if word = "error" then error
  else if word = "success" then success
  else info

end Level

/-- Whether the engine speaks for itself or a rule speaks through it. -/
inductive Speaker
  | engine
  | rule
deriving DecidableEq

def Speaker.label : Speaker → String
  | engine => "ENGINE"
  | rule => "RULE"

structure Line where
  speaker : Speaker
  level : Level
  message : String
deriving DecidableEq

def Line.render (line : Line) : String :=
  "[" ++ line.speaker.label ++ "] [" ++ line.level.label ++ "] " ++ line.message

/-- Lines in the order in which they were written. -/
abbrev Journal := List Line

end StageGate
