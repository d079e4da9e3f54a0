import StageGate.Binary64.Layout
import StageGate.DateTime.Printer
import StageGate.DateTime.Reader
import StageGate.Json.Printer

/-! The values that rules work on. -/
namespace StageGate

inductive Value
  | null
  | bool (b : Bool)
  | int (n : Int64)
  | float (x : Binary64)
  | string (s : String)
  | dateTime (t : DateTime)
  | list (items : List Value)
  | record (fields : List (String × Value))

namespace Value

instance : Inhabited Value := ⟨null⟩

/-- The name of a value's kind in error messages. -/
def kind : Value → String
  | null => "null"
  | bool _ => "bool"
  | int _ => "int"
  | float _ => "float"
  | string _ => "string"
  | dateTime _ => "datetime"
  | list _ => "list"
  | record _ => "record"

def isNull : Value → Bool
  | null => true
  | _ => false

/-- The number as binary64, for whole numbers rounded. -/
def number? : Value → Option Binary64
  | int n => some (.ofInt n.toInt)
  | float x => some x
  | _ => none

def bool? : Value → Option Bool
  | bool b => some b
  | _ => none

def int? : Value → Option Int64
  | int n => some n
  | _ => none

def string? : Value → Option String
  | string s => some s
  | _ => none

def dateTime? : Value → Option DateTime
  | dateTime t => some t
  | _ => none

def list? : Value → Option (List Value)
  | list items => some items
  | _ => none

def record? : Value → Option (Fields Value)
  | record fields => some fields
  | _ => none

/-- A field of a record; nothing has fields but records. -/
def field? (v : Value) (name : String) : Option Value :=
  v.record?.bind (Fields.find? · name)

mutual

/-- The value of a document, where `leaf` says what a text stands for. -/
def ofJsonWith (leaf : String → Value) : Json → Value
  | .null => null
  | .bool b => bool b
  | .whole n =>
    match n.toInt64? with
    | some i => int i
    | none => float (.ofInt n.val)
  | .float x => float (.finite x)
  | .string s => leaf s
  | .array items => list (ofItemsWith leaf items)
  | .object fields => record (ofFieldsWith leaf fields)

def ofItemsWith (leaf : String → Value) : List Json → List Value
  | [] => []
  | item :: items => ofJsonWith leaf item :: ofItemsWith leaf items

def ofFieldsWith (leaf : String → Value) : List (String × Json) → List (String × Value)
  | [] => []
  | (name, value) :: fields => (name, ofJsonWith leaf value) :: ofFieldsWith leaf fields

end

/-- A literal: texts stand for themselves. -/
def ofJson : Json → Value :=
  ofJsonWith string

def ofText (s : String) : Value :=
  match DateTime.read? s with
  | some t => dateTime t
  | none => string s

/-- Stored data: texts that read as a date or date-time become one. -/
def project : Json → Value :=
  ofJsonWith ofText

mutual

/-- Date-times become texts; what is no finite number becomes null. -/
def toJson : Value → Json
  | null => .null
  | bool b => .bool b
  | int n => .whole (.ofInt64 n)
  | float (.finite x) => .float x
  | float _ => .null
  | string s => .string s
  | dateTime t => .string t.toText
  | list items => .array (itemsToJson items)
  | record fields => .object (fieldsToJson fields)

def itemsToJson : List Value → List Json
  | [] => []
  | item :: items => toJson item :: itemsToJson items

def fieldsToJson : List (String × Value) → List (String × Json)
  | [] => []
  | (name, value) :: fields => (name, toJson value) :: fieldsToJson fields

end

/-- The text form, by which values are compared for equality and put into messages. -/
def toText : Value → String
  | null => ""
  | bool b => if b then "true" else "false"
  | int n => toString n.toInt
  | float x => x.toText
  | string s => s
  | dateTime t => t.toText
  | list items => (toJson (list items)).render
  | record fields => (toJson (record fields)).render

end Value
end StageGate
