import StageGate.Store
import StageGate.Subject

/-! Where the subjects of a workflow are kept in the store. -/
namespace StageGate

structure Roster where
  kind : String
  idField : String
  stateField : String

namespace Roster

def load (roster : Roster) (store : Store) : Except Error (List Subject) := do
  (← store.records roster.kind).mapM (Subject.ofRecord roster.idField roster.stateField)

/-- Ids agree by their text form. -/
def isRecordOf (roster : Roster) (subject : Subject) (record : Json) : Bool :=
  (record.field? roster.idField).any fun id => (Value.ofJson id).toText == subject.id

/-- The first record of the subject is replaced; without one, the subject joins at the end. -/
def upsert (roster : Roster) (subject : Subject) : List Json → List Json
  | [] => [subject.toRecord]
  | record :: records =>
    if roster.isRecordOf subject record then subject.toRecord :: records
    else record :: roster.upsert subject records

def upsertAll (roster : Roster) (subjects : List Subject) (records : List Json) : List Json :=
  subjects.foldl (fun records subject => roster.upsert subject records) records

def commit (roster : Roster) (subjects : List Subject) (store : Store) : Except Error Store :=
  match store.spelling? roster.kind with
  | none => .error (.entityNotFound roster.kind)
  | some name =>
    let records := (Fields.find? store.tables name).getD []
    .ok ⟨Fields.insert store.tables name (roster.upsertAll subjects records)⟩

end Roster
end StageGate
