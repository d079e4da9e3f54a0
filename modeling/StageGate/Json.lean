import StageGate.Binary64
import StageGate.Fields

/-! Data documents. -/
namespace StageGate

/-- A whole number of a document: signed or unsigned, of 64 bits. -/
structure Whole where
  val : Int
  lower : -0x8000000000000000 ≤ val
  upper : val < 0x10000000000000000
deriving DecidableEq

namespace Whole

def ofInt? (i : Int) : Option Whole :=
  if h : -0x8000000000000000 ≤ i ∧ i < 0x10000000000000000 then some ⟨i, h.1, h.2⟩ else none

def ofInt64 (n : Int64) : Whole :=
  ⟨n.toInt, by have := n.le_toInt; omega, by have := n.toInt_lt; omega⟩

/-- The number in 64 signed bits, if it fits. -/
def toInt64? (n : Whole) : Option Int64 :=
  if n.val < 0x8000000000000000 then some (Int64.ofInt n.val) else none

end Whole

inductive Json
  | null
  | bool (b : Bool)
  | whole (n : Whole)
  | float (x : Finite64)
  | string (s : String)
  | array (items : List Json)
  | object (fields : List (String × Json))

namespace Json

instance : Inhabited Json := ⟨null⟩

/-- A field of an object; nothing has fields but objects. -/
def field? : Json → String → Option Json
  | object fields, name => Fields.find? fields name
  | _, _ => none

def string? : Json → Option String
  | string s => some s
  | _ => none

def ofNat (n : Nat) : Json :=
  match Whole.ofInt? n with
  | some n => whole n
  | none => null

end Json
end StageGate
