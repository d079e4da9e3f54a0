import StageGate.Value.Comparison

/-! The variables of one rule run, and the paths that lead into them. -/
namespace StageGate

/-- What a rule run says about its subject. -/
structure Verdict where
  passed : Bool
  reason : String
deriving DecidableEq

/-- The value at the end of a path. A step that leads nowhere gives null, and so does the whole
path; `Count` ends it with the length of a list. -/
def Value.follow : Value → List String → Value
  | v, [] => v
  | .record fields, name :: rest =>
    match Fields.find? fields name with
    | some v => v.follow rest
    | none => .null
  | .list items, name :: rest =>
    if name = "Count" then .int (Int64.ofNat items.length)
    else
      match (Text.index? name.toList).bind (items[·]?) with
      | some v => v.follow rest
      | none => .null
  | _, _ :: _ => .null

structure Variables where
  entries : Fields Value

namespace Variables

def statusName : String := "Status"
def reasonName : String := "Reason"
def breakName : String := "BreakSignal"
def continueName : String := "ContinueSignal"

/-- Only the reserved names have a value before a run. -/
def initial : Variables :=
  ⟨Fields.ofList [(statusName, .bool false), (reasonName, .string ""), (breakName, .bool false),
    (continueName, .bool false)]⟩

def find? (vars : Variables) (name : String) : Option Value :=
  Fields.find? vars.entries name

def has (vars : Variables) (name : String) : Bool :=
  (vars.find? name).isSome

def get (vars : Variables) (name : String) : Except Error Value :=
  match vars.find? name with
  | some v => .ok v
  | none => .error (.notFound name)

def put (vars : Variables) (name : String) (v : Value) : Variables :=
  ⟨Fields.insert vars.entries name v⟩

theorem find?_put (vars : Variables) (name other : String) (v : Value) :
    (vars.put name v).find? other = if name = other then some v else vars.find? other :=
  Fields.find?_insert vars.entries name other v

/-- A blank name is refused. -/
def set (vars : Variables) (name : String) (v : Value) : Except Error Variables :=
  if Text.isBlank name then .error (.invalidName name) else .ok (vars.put name v)

/-- The names on a path: a leading `@` and blanks around it do not count. -/
def pathNames (path : String) : List String :=
  let cs := Text.trimChars path.toList
  let cs := if cs.head? = some '@' then cs.drop 1 else cs
  if cs.isEmpty then [] else (Text.splitChars '.' cs).map String.ofList

def follow (vars : Variables) : List String → Value
  | [] => .null
  | root :: rest =>
    match vars.find? root with
    | some v => v.follow rest
    | none => .null

def resolve (vars : Variables) (path : String) : Value :=
  vars.follow (pathNames path)

theorem resolve_congr {vars vars' : Variables} {path : String}
    (h : ∀ root, (pathNames path).head? = some root → vars.find? root = vars'.find? root) :
    vars.resolve path = vars'.resolve path := by
  unfold resolve
  cases hpath : pathNames path with
  | nil => rfl
  | cons root rest => simp only [follow, h root (by simp [hpath])]

/-- A text that starts with `@` is a path, all else a literal. -/
def evaluate (vars : Variables) : Value → Value
  | .string s =>
    match s.toList with
    | '@' :: path => vars.resolve (String.ofList path)
    | _ => .string s
  | v => v

def isRaised (vars : Variables) (signal : String) : Bool :=
  ((vars.find? signal).bind Value.bool?).getD false

/-- Whether the signal was raised, and the variables with it lowered. -/
def takeSignal (vars : Variables) (signal : String) : Bool × Variables :=
  if vars.isRaised signal then (true, vars.put signal (.bool false)) else (false, vars)

theorem isRaised_put (vars : Variables) (name signal : String) (v : Value) :
    (vars.put name v).isRaised signal =
      if name = signal then v.bool?.getD false else vars.isRaised signal := by
  simp only [isRaised, find?_put]
  split <;> rfl

theorem find?_takeSignal (vars : Variables) (signal name : String) :
    (vars.takeSignal signal).2.find? name =
      if vars.isRaised signal ∧ signal = name then some (.bool false) else vars.find? name := by
  unfold takeSignal
  split
  · next h => simp [find?_put, h]
  · next h => simp [h]

theorem isRaised_takeSignal (vars : Variables) (signal other : String) :
    (vars.takeSignal signal).2.isRaised other =
      if signal = other then false else vars.isRaised other := by
  by_cases h : signal = other
  · subst h
    cases hr : vars.isRaised signal <;> simp [takeSignal, hr, isRaised_put, Value.bool?]
  · simp [isRaised, find?_takeSignal, h]

/-- A status that is no boolean passes if its text is `true` in any case. -/
def verdict (vars : Variables) : Verdict where
  passed :=
    match vars.find? statusName with
    | some (.bool b) => b
    | some v => Text.sameIgnoringCase v.trimmedText "true"
    | none => false
  reason :=
    match vars.find? reasonName with
    | some v => v.toText
    | none => ""

end Variables
end StageGate
