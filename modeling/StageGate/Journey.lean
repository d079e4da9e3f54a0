import StageGate.Error
import StageGate.Json.Reading

/-! How far a subject got, and why no further. -/
namespace StageGate

inductive Halt
  | terminal
  | noRule
  | rejected (reason : String)
  | noSuccessor
  | failed (error : String)
deriving DecidableEq

structure Journey where
  subjectId : String
  start : String
  finish : String
  halt : Halt
  transitions : Nat
deriving DecidableEq

/-- The journeys of a batch, in the order of its subjects. -/
structure Report where
  journeys : List Journey

namespace Halt

def fields : Halt → List (String × Json)
  | terminal => [("kind", .string "terminal")]
  | noRule => [("kind", .string "no_rule")]
  | rejected reason => [("kind", .string "rejected"), ("reason", .string reason)]
  | noSuccessor => [("kind", .string "no_successor")]
  | failed error => [("error", .string error), ("kind", .string "failed")]

def toJson (halt : Halt) : Json :=
  .object halt.fields

def isFailed : Halt → Bool
  | failed _ => true
  | _ => false

def kinds : List String :=
  ["terminal", "no_rule", "rejected", "no_successor", "failed"]

open Json

def readKind : Reading String
  | .string name => if name ∈ kinds then .ok name else .error (.unknownVariant name kinds)
  | found => .error (.wrongType found "variant identifier")

/-- `plain` is asked for the kinds that carry nothing, `detail` for the one text that the others
carry. -/
def ofKind (plain : Except Misfit Unit) (detail : String → Except Misfit String) (kind : String) :
    Except Misfit Halt :=
  if kind = "terminal" then (fun _ => terminal) <$> plain
  else if kind = "no_rule" then (fun _ => noRule) <$> plain
  else if kind = "rejected" then rejected <$> detail "reason"
  else if kind = "no_successor" then (fun _ => noSuccessor) <$> plain
  else failed <$> detail "error"

/-- An object, or a list of the kind and what it carries. -/
def ofJson : Reading Halt
  | .object fields => do
    let kind ← required "kind" (← given fields "kind" readKind)
    ofKind (.ok ()) (fun name => do required name (← given fields name asText)) kind
  | .array (kind :: rest) => do
    let kind ← readKind kind
    let plain :=
      if rest.isEmpty then .ok () else .error (.wrongLength rest.length "0 elements in sequence")
    ofKind plain (fun name =>
      let family := if name = "reason" then "Rejected" else "Failed"
      match rest with
      | [] => .error (.wrongLength 0 ("struct variant HaltKind::" ++ family ++ " with 1 element"))
      | text :: more => do
        let text ← asText text
        if more.isEmpty then return text
        else throw (.wrongLength (more.length + 1) "1 element in sequence")) kind
  | .array [] => .error (.missingField "kind")
  | found => .error (.wrongType found "internally tagged enum HaltKind")

end Halt

namespace Journey

open Json

def toJson (j : Journey) : Json :=
  .object [("final_state", .string j.finish), ("halt", j.halt.toJson),
    ("initial_state", .string j.start), ("subject_id", .string j.subjectId),
    ("transitions", .ofNat j.transitions)]

/-- An object, or a list of the five parts in order. -/
def ofJson : Reading Journey
  | .object fields => do
    let finish ← given fields "final_state" asText
    let halt ← given fields "halt" Halt.ofJson
    let start ← given fields "initial_state" asText
    let subjectId ← given fields "subject_id" asText
    let transitions ← given fields "transitions" asCount
    return {
      subjectId := ← required "subject_id" subjectId
      start := ← required "initial_state" start
      finish := ← required "final_state" finish
      halt := ← required "halt" halt
      transitions := ← required "transitions" transitions }
  | .array items => do
    let part (i : Nat) {α : Type} (read : Reading α) : Except Misfit α :=
      match items[i]? with
      | some item => read item
      | none => .error (.wrongLength i "struct SubjectOutcome with 5 elements")
    let journey : Journey := {
      subjectId := ← part 0 asText
      start := ← part 1 asText
      finish := ← part 2 asText
      halt := ← part 3 Halt.ofJson
      transitions := ← part 4 asCount }
    if items.length > 5 then throw (.wrongLength items.length "fewer elements in array")
    return journey
  | found => .error (.wrongType found "struct SubjectOutcome")

end Journey

namespace Report

def ofJson (journeys : Json) : Except Error Report :=
  match Json.asList Journey.ofJson journeys with
  | .ok journeys => .ok ⟨journeys⟩
  | .error misfit => .error (.json (.misfit misfit))

/-- Subjects that moved at least once. -/
def advanced (report : Report) : Nat :=
  (report.journeys.filter (0 < ·.transitions)).length

def failed (report : Report) : Nat :=
  (report.journeys.filter (·.halt.isFailed)).length

/-- The journeys by the state they ended in. -/
def byFinish (report : Report) : Fields (List Journey) :=
  report.journeys.foldl (fun groups j =>
    Fields.insert groups j.finish (((Fields.find? groups j.finish).getD []) ++ [j])) []

def journeyLine (j : Journey) : String :=
  match j.halt with
  | .rejected reason =>
    if reason = "" then ""
    else "  - subject " ++ j.subjectId ++ " held at " ++ j.finish ++ ": " ++ reason ++ "\n"
  | .failed error =>
    "  ! subject " ++ j.subjectId ++ " failed at " ++ j.finish ++ ": " ++ error ++ "\n"
  | _ => ""

/-- The totals, and a line for each subject that was rejected with a reason or failed. -/
def summary (report : Report) : String :=
  "Processed " ++ toString report.journeys.length ++ " subjects: " ++ toString report.advanced ++
    " advanced, " ++ toString report.failed ++ " failed\n" ++
    String.join (report.journeys.map journeyLine)

end Report
end StageGate
