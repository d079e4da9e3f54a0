import StageGate.Error
import StageGate.Text.Blank
import StageGate.Value

/-! Subjects: records on their way through the states. -/
namespace StageGate

/-- The record keeps all its fields; the state in it changes when the subject moves. -/
structure Subject where
  id : String
  state : String
  stateField : String
  record : Fields Json

namespace Subject

def ofRecord (idField stateField : String) (record : Json) : Except Error Subject :=
  match record with
  | .object fields =>
    match Fields.find? fields idField with
    | none | some .null => .error (.store (.noId idField))
    | some raw =>
      let id := (Value.ofJson raw).toText
      match Fields.find? fields stateField with
      | some (.string state) => .ok ⟨id, Text.trim state, stateField, fields⟩
      | _ => .error (.store (.noState id stateField))
  | _ => .error (.store .recordNotObject)

def moveTo (subject : Subject) (state : String) : Subject :=
  { subject with state, record := Fields.insert subject.record subject.stateField (.string state) }

theorem moveTo_moveTo (subject : Subject) (state state' : String) :
    (subject.moveTo state).moveTo state' = subject.moveTo state' := by
  simp [moveTo, Fields.insert_insert]

def toRecord (subject : Subject) : Json :=
  .object subject.record

/-- The value that rules see. -/
def project (subject : Subject) : Value :=
  Value.project subject.toRecord

end Subject
end StageGate
