import StageGate.Json.Misfit

/-! Reading typed data out of documents. Fields that are present are read in the order of their
names; only then are the missing ones missed. -/
namespace StageGate.Json

abbrev Reading (α : Type) := Json → Except Misfit α

def asText : Reading String
  | .string s => .ok s
  | found => .error (.wrongType found "a string")

def asOptional {α : Type} (read : Reading α) : Reading (Option α)
  | .null => .ok none
  | found => some <$> read found

def asList {α : Type} (read : Reading α) : Reading (List α)
  | .array items => items.mapM read
  | found => .error (.wrongType found "a sequence")

def asIs : Reading Json :=
  .ok

def asFields : Reading (Fields Json)
  | .object fields => .ok fields
  | found => .error (.wrongType found "a map")

/-- A whole number that is not negative. -/
def asCount : Reading Nat
  | .whole n =>
    if n.val < 0 then .error (.wrongValue (.whole n) "usize") else .ok n.val.toNat
  | found => .error (.wrongType found "usize")

/-- A field, if it is there. -/
def given {α : Type} (fields : Fields Json) (name : String) (read : Reading α) :
    Except Misfit (Option α) :=
  match Fields.find? fields name with
  | some value => some <$> read value
  | none => .ok none

def required {α : Type} (name : String) : Option α → Except Misfit α
  | some a => .ok a
  | none => .error (.missingField name)

end StageGate.Json
