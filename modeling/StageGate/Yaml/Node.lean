import StageGate.Binary64.Reader
import StageGate.Json
import Std.Data.HashMap

/-! The nodes of a YAML document, and the data they stand for. -/
namespace StageGate.Yaml

/-- What a tag says about its node. A foreign tag has no meaning here, and one of the document's own
cannot have any. -/
inductive Tag
  | standard (name : String)
  | foreign
  | own
deriving DecidableEq

/-- A scalar is plain if it is written without quotes; only then its text may name something else
than itself. A reference stands for the node whose anchor has this number. -/
inductive Node
  | scalar (tag : Option Tag) (plain : Bool) (text : String)
  | sequence (items : List Node)
  | mapping (entries : List (Node × Node))
  | reference (anchor : Nat)

/-- What is not written is null. -/
def Node.absent : Node :=
  .scalar none true ""

instance : Inhabited Node := ⟨.absent⟩

def isNullName (text : String) : Bool :=
  text ∈ ["~", "null", "Null", "NULL"]

def bool? (text : String) : Option Bool :=
  if text ∈ ["true", "True", "TRUE"] then some true
  else if text ∈ ["false", "False", "FALSE"] then some false
  else none

def digitValue? (base : Nat) (c : Char) : Option Nat :=
  let n := c.toNat
  let d :=
    if c.isDigit then some (n - 48)
    else if 97 ≤ n ∧ n ≤ 122 then some (n - 87)
    else if 65 ≤ n ∧ n ≤ 90 then some (n - 55)
    else none
  d.filter (· < base)

def digits? (base : Nat) (cs : List Char) : Option Nat :=
  if cs.isEmpty then none
  else (cs.mapM (digitValue? base)).map (·.foldl (fun n d => base * n + d) 0)

/-- Digits with a leading zero are no number. -/
def isPaddedDigits (cs : List Char) : Bool :=
  match cs with
  | '0' :: rest => !rest.isEmpty && rest.all Char.isDigit
  | _ => false

/-- A whole number: decimal, or in the base that its beginning names. -/
def integer? (text : String) : Option Int :=
  let (negative, cs) := Text.splitSign text.toList
  let magnitude :=
    match cs with
    | '0' :: 'x' :: rest => digits? 16 rest
    | '0' :: 'o' :: rest => digits? 8 rest
    | '0' :: 'b' :: rest => digits? 2 rest
    | cs => if isPaddedDigits cs then none else Text.natural? cs
  magnitude.map fun n => if negative then -n else n

/-- A number with a fraction or exponent. Infinity and NaN have names of their own, and no place in
the data. -/
def float? (text : String) : Option Json :=
  let (_, cs) := Text.splitSign text.toList
  if text ∈ [".nan", ".NaN", ".NAN"] then some .null
  else if String.ofList cs ∈ [".inf", ".Inf", ".INF"] then some .null
  else
    match Binary64.read text.toList with
    | some (.finite x) => some (.float x)
    | _ => none

/-- Whole numbers have 64 bits. Up to 128 bits they are refused, and beyond they are rounded. -/
def number? (text : String) : Option (Option Json) :=
  let rounded := if isPaddedDigits (Text.splitSign text.toList).2 then none else float? text
  match integer? text with
  | some i =>
    match Whole.ofInt? i with
    | some n => some (some (.whole n))
    | none =>
      if -0x80000000000000000000000000000000 ≤ i ∧ i < 0x100000000000000000000000000000000 then
        some none
      else rounded.map some
  | none => rounded.map some

/-- What the text of a plain scalar stands for, if that is possible. -/
def plainScalar (text : String) : Option Json :=
  if text = "" || isNullName text then some .null
  else
    match bool? text with
    | some b => some (.bool b)
    | none =>
      match number? text with
      | some number => number
      | none => some (.string text)

/-- A scalar under a tag: a text, unless the tag asks for something else. -/
def taggedScalar (tag : Tag) (text : String) : Option Json :=
  match tag with
  | .standard "null" => if isNullName text then some .null else none
  | .standard "bool" => (bool? text).map .bool
  | .standard "int" => (integer? text).bind fun i => (Whole.ofInt? i).map .whole
  | .standard "float" => float? text
  | .standard _ | .foreign => some (.string text)
  | .own => none

/-- The data of a scalar. -/
def scalarData (tag : Option Tag) (plain : Bool) (text : String) : Option Json :=
  match tag with
  | some tag => taggedScalar tag text
  | none => if plain then plainScalar text else some (.string text)

/-- A node and those that its references stand for, by their numbers. The references may be followed
so many times. -/
structure Document where
  root : Node
  anchored : Std.HashMap Nat Node
  allowance : Nat

namespace Document

/-- Counts down how many more references may be followed. -/
abbrev Following := StateT Nat Option

/-- What a node is or refers to. -/
def follow (document : Document) (node : Node) : Following Node := do
  match node with
  | .reference anchor =>
    match (← get) with
    | 0 => failure
    | left + 1 =>
      set left
      document.anchored[anchor]?
  | node => return node

/-- The name of a field is the text of a scalar, whatever its tag. -/
def nameOf? (node : Node) : Option String :=
  match node with
  | .scalar _ _ text => some text
  | _ => none

/-- The data of a node with at most `depth` collections inside each other. -/
def data (document : Document) : (depth : Nat) → Node → Following Json
  | _, .scalar tag plain text => scalarData tag plain text
  | depth + 1, .sequence items => do
    let values ← items.mapM fun item => do
      document.data depth (← document.follow item)
    return .array values
  | depth + 1, .mapping entries => do
    let fields ← entries.mapM fun (name, value) => do
      let name ← nameOf? (← document.follow name)
      return (name, ← document.data depth (← document.follow value))
    return .object (Fields.ofList fields)
  | _, _ => failure

/-- How deep collections may stand inside each other. -/
def deepest : Nat := 128

def toJson? (document : Document) : Option Json :=
  (document.data deepest document.root).run' document.allowance

end Document
end StageGate.Yaml
