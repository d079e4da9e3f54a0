import StageGate.Value

/-! The tree of subjects by state. -/
namespace StageGate.StateTree

/-- One state with its records. -/
structure Block where
  state : String
  members : List Json

def fieldText (record : Json) (name : String) : String :=
  match record.field? name with
  | some raw => (Value.ofJson raw).toText
  | none => ""

/-- The records by the text of their state, in ascending order of states. -/
def groups (stateField : String) (records : List Json) : Fields (List Json) :=
  records.foldl (fun groups record =>
    let state := fieldText record stateField
    Fields.insert groups state (((Fields.find? groups state).getD []) ++ [record])) []

/-- States of the order come first, as far as there are records in them. -/
def arrange : List String → Fields (List Json) → List Block
  | [], groups => groups.map fun (state, members) => ⟨state, members⟩
  | state :: order, groups =>
    match Fields.find? groups state with
    | some members => ⟨state, members⟩ :: arrange order (groups.filter (·.1 != state))
    | none => arrange order groups

def blocks (stateField : String) (order : List String) (records : List Json) : List Block :=
  arrange order (groups stateField records)

def memberLine (idField : String) (mark : String) (record : Json) : String :=
  let name :=
    match (record.field? "Name").bind Json.string? with
    | some name => ", Name: " ++ name
    | none => ""
  "  " ++ mark ++ " Id: " ++ fieldText record idField ++ name ++ "\n"

/-- The last member has a mark of its own. -/
def memberLines (idField : String) : List Json → List String
  | [] => []
  | [record] => [memberLine idField "└─" record]
  | record :: records => memberLine idField "├─" record :: memberLines idField records

def Block.lines (idField : String) (block : Block) : List String :=
  ("State: " ++ block.state ++ " - Subjects count: " ++ toString block.members.length ++ "\n") ::
    memberLines idField block.members

def render (idField stateField : String) (order : List String) (records : List Json) : String :=
  String.join ((blocks stateField order records).flatMap (Block.lines idField))

end StageGate.StateTree
