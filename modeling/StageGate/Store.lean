import StageGate.Error
import StageGate.Text.Blank
import StageGate.Value

/-! The store: records by kind. -/
namespace StageGate

/-- Fields and the values they should have. -/
abbrev Filter := Fields Value

structure Store where
  tables : Fields (List Json)

namespace Store

def empty : Store := ⟨[]⟩

def readTables : List (String × Json) → Except Error (Fields (List Json))
  | [] => .ok []
  | (kind, .array records) :: rest => do return (kind, records) :: (← readTables rest)
  | (kind, _) :: _ => .error (.parse (.kindNotList kind))

def ofJson : Json → Except Error Store
  | .object fields => Store.mk <$> readTables fields
  | _ => .error (.parse .dataNotObject)

def toJson (store : Store) : Json :=
  .object (store.tables.map fun (kind, records) => (kind, .array records))

/-- The kind as the store spells it: exactly so, or else the first one that differs in case only. -/
def spelling? (store : Store) (kind : String) : Option String :=
  if Fields.has store.tables kind then some kind
  else (Fields.names store.tables).find? (Text.sameIgnoringCase · kind)

theorem spelling?_insert {store : Store} {kind name : String}
    (h : store.spelling? kind = some name) (records : List Json) :
    spelling? ⟨Fields.insert store.tables name records⟩ kind = some name := by
  unfold spelling? at h ⊢
  split at h
  · cases h
    simp [Fields.has, Fields.find?_insert]
  · next hkind =>
    have hname : name ≠ kind := by
      rintro rfl
      exact hkind (Fields.has_of_mem_names (List.mem_of_find?_eq_some h))
    rw [if_neg, Fields.find?_names_insert h]
    simpa [Fields.has, Fields.find?_insert, hname] using hkind

/-- Records join at the end of their kind, which is made if there is none. -/
def insert (store : Store) (kind : String) (records : List Json) : Store :=
  let name := (store.spelling? kind).getD kind
  ⟨Fields.insert store.tables name (((Fields.find? store.tables name).getD []) ++ records)⟩

def records (store : Store) (kind : String) : Except Error (List Json) :=
  match store.spelling? kind with
  | some name => .ok ((Fields.find? store.tables name).getD [])
  | none => .error (.entityNotFound kind)

/-- Trimmed texts agree, or the text asked for names the date-time that is there. -/
def fieldMatches (actual expected : Value) : Bool :=
  let sameText := Text.trim actual.toText == Text.trim expected.toText
  match actual, expected with
  | .dateTime t, .string s =>
    match DateTime.read? s with
    | some t' => t == t'
    | none => sameText
  | _, _ => sameText

/-- A field that is not there counts as null. -/
def recordMatches (record : Value) (filter : Filter) : Bool :=
  filter.all fun (field, expected) => fieldMatches ((record.field? field).getD .null) expected

def fetchList (store : Store) (kind : String) (filter : Filter) : Except Error (List Value) := do
  return ((← store.records kind).map Value.project).filter (recordMatches · filter)

/-- The only match, or null without one. -/
def fetchOne (store : Store) (kind : String) (filter : Filter) : Except Error Value := do
  match ← store.fetchList kind filter with
  | [] => return .null
  | [found] => return found
  | found => throw (.store (.severalMatches kind found.length))

end Store
end StageGate
