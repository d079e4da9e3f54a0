import StageGate.Variables

/-! Messages with references to variables. -/
namespace StageGate.Message

/-- The characters of a path in a message. -/
def isPathChar (c : Char) : Bool :=
  c.isAlphanum || c == '_' || c == '.'

inductive Piece
  | char (c : Char)
  | reference (path : List Char)
deriving DecidableEq

/-- A reference is an `@` with all path characters behind it, at least one. -/
def pieces : List Char → List Piece
  | [] => []
  | c :: cs =>
    if c = '@' ∧ cs.takeWhile isPathChar ≠ [] then
      .reference (cs.takeWhile isPathChar) :: pieces (cs.dropWhile isPathChar)
    else .char c :: pieces cs
termination_by cs => cs.length
decreasing_by
  · have := (cs.dropWhile_sublist isPathChar).length_le
    simp only [List.length_cons]
    omega
  · simp

/-- Dots at the end of a reference belong to the text. -/
def splitDots (path : List Char) : List Char × List Char :=
  let dots := path.reverse.takeWhile (· == '.')
  (path.take (path.length - dots.length), dots)

def referenceText (vars : Variables) (path : List Char) : List Char :=
  let (path, dots) := splitDots path
  let v := vars.resolve (String.ofList path)
  (if v.isNull then "null" else v.toText).toList ++ dots

def Piece.text (vars : Variables) : Piece → List Char
  | char c => [c]
  | reference path => referenceText vars path

/-- The message with every reference replaced by the text of what it leads to. -/
def render (vars : Variables) (message : String) : String :=
  String.ofList ((pieces message.toList).flatMap (Piece.text vars))

end StageGate.Message
