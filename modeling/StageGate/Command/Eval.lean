import StageGate.Command.Answer
import StageGate.Run

/-! One rule for one subject. The run of the rule has an allowance for circles. -/
namespace StageGate.Eval

/-- The verdict of a rule on a record that stands under the key. -/
def judge (rule : Rule) (store : Store) (key : String) (record : Json)
    (allowance : Nat := Rule.circleAllowance) : Ending Verdict :=
  (rule.runWith store key (Value.project record) [] allowance).1

def readSubject (text : String) : Except Failure Json :=
  match Json.parse text with
  | .error e => .error ((Failure.ofMessage e.message).during "--subject must be valid JSON")
  | .ok (.object fields) => .ok (.object fields)
  | .ok _ => .error (.ofMessage "--subject must be a JSON object")

def render (verdict : Verdict) : String :=
  (Json.object [("status", .bool verdict.passed), ("reason", .string verdict.reason)]).pretty ++
    "\n"

def report : Ending Verdict → Except Failure String
  | .done verdict => .ok (render verdict)
  | .failed e => .error (.ofError e)
  | .unfinished => .error (.ofMessage "The rule does not come to an end")

variable {m : Type → Type} [Monad m]

def readStore (disk : Disk m) : Option String → m (Except Failure Store)
  | some name => disk.readData name
  | none => return .ok Store.empty

def result (s : Surroundings m) (rule subject : String) (data : Option String)
    (allowance : Nat := Rule.circleAllowance) : ExceptT Failure m String := do
  let settings ← ExceptT.mk (pure (loadSettings s.environment))
  let text ← ExceptT.mk (s.disk.readText rule)
  let rule ← ExceptT.mk (pure ((Rule.ofFile rule text).mapError Failure.ofError))
  let record ← ExceptT.mk (pure (readSubject subject))
  let store ← ExceptT.mk (readStore s.disk data)
  ExceptT.mk (pure (report (judge rule store settings.subjectKey record allowance)))

def run (s : Surroundings m) (rule subject : String) (data : Option String)
    (allowance : Nat := Rule.circleAllowance) : m Answer := do
  match ← (result s rule subject data allowance).run with
  | .ok output => return ⟨output, none⟩
  | .error failure => return ⟨"", some failure⟩

end StageGate.Eval
