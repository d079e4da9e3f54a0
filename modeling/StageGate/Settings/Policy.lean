import StageGate.Error
import StageGate.Text.Lower

/-! What a batch does when a rule run fails. -/
namespace StageGate

inductive Policy
  /-- The first error ends the batch, and nothing is committed. -/
  | failFast
  /-- The error goes on record, the subject keeps its state, and the batch carries on. -/
  | isolate
deriving DecidableEq

namespace Policy

def name : Policy → String
  | failFast => "fail_fast"
  | isolate => "isolate"

def all : List Policy :=
  [failFast, isolate]

def named? (text : String) : Option Policy :=
  all.find? (·.name == text)

/-- Case and blanks around do not count, and a hyphen stands for an underscore. -/
def read (text : String) : Except Error Policy :=
  let word := Text.lower (Text.trim text)
  let word := String.ofList (word.toList.map fun c => if c = '-' then '_' else c)
  match named? word with
  | some policy => .ok policy
  | none => .error (.config (.unknownPolicy word))

end Policy
end StageGate
