import StageGate.Yaml.Cursor

/-! Block scalars: indented lines under a header. -/
namespace StageGate.Yaml.Block

/-- What becomes of the line breaks at the end. -/
inductive Chomping
  | strip
  | clip
  | keep
deriving DecidableEq

/-- An indentation is either given or found out from the lines. -/
structure Header where
  chomping : Chomping
  indent : Option Nat

def chomping? (c : Char) : Option Chomping :=
  match c with
  | '-' => some .strip
  | '+' => some .keep
  | _ => none

def indent? (c : Char) : Option Nat :=
  if c.isDigit then some (c.toNat - 48) else none

/-- At most one sign and one digit from 1 on, in any order, and what follows them. -/
def readHeader (cs : List Char) : Option (Header × List Char) :=
  let header : Header × List Char :=
    match cs with
    | a :: b :: rest =>
      match chomping? a, indent? b, indent? a, chomping? b with
      | some chomping, some n, _, _ => (⟨chomping, some n⟩, rest)
      | some chomping, none, _, _ => (⟨chomping, none⟩, b :: rest)
      | _, _, some n, some chomping => (⟨chomping, some n⟩, rest)
      | _, _, some n, none => (⟨.clip, some n⟩, b :: rest)
      | _, _, _, _ => (⟨.clip, none⟩, cs)
    | [a] => (⟨(chomping? a).getD .clip, indent? a⟩,
        if (chomping? a).isSome || (indent? a).isSome then [] else cs)
    | [] => (⟨.clip, none⟩, [])
  if header.1.indent = some 0 then none else some header

/-- A line and the break at its end; the last line may be without one. -/
structure Line where
  text : List Char
  ending : List Char

def splitLines : List Char → List Line
  | [] => []
  | c :: cs =>
    if isBreak c then ⟨[], [c]⟩ :: splitLines cs
    else
      match splitLines cs with
      | [] => [⟨[c], []⟩]
      | line :: lines => ⟨c :: line.text, line.ending⟩ :: lines

def joinLines (lines : List Line) : List Char :=
  lines.flatMap fun line => line.text ++ line.ending

def Line.margin (line : Line) : Nat :=
  (line.text.takeWhile (· == ' ')).length

def Line.isEmpty (line : Line) : Bool :=
  line.margin == line.text.length && !line.ending.isEmpty

/-- The widest margin up to the first line with anything but spaces in it. A tab behind the margin
is refused. -/
def widestMargin : List Line → Option Nat
  | [] => some 0
  | line :: lines =>
    if line.isEmpty then (widestMargin lines).map (max line.margin)
    else if (line.text.drop line.margin).head? = some '\t' then none
    else some line.margin

/-- A line of the scalar with its margin cut off; empty ones are breaks and no more. -/
inductive Piece
  | empty (ending : List Char)
  | text (cs : List Char) (ending : List Char)

/-- The lines that belong to the scalar. It ends before the first that has too small a margin. -/
def takePieces (indent : Nat) : List Line → Option (List Piece × List Line)
  | [] => some ([], [])
  | line :: lines => do
    if line.margin < indent then
      if line.isEmpty then
        let (pieces, rest) ← takePieces indent lines
        return (.empty line.ending :: pieces, rest)
      else if (line.text.drop line.margin).head? = some '\t' then none
      else return ([], line :: lines)
    else if line.text.length = indent then
      if line.ending.isEmpty then return ([], line :: lines)
      let (pieces, rest) ← takePieces indent lines
      return (.empty line.ending :: pieces, rest)
    else
      let (pieces, rest) ← takePieces indent lines
      return (.text (line.text.drop indent) line.ending :: pieces, rest)

/-- The breaks at the end of a scalar: of its last line, and of the empty lines behind it. -/
def chomp (chomping : Chomping) (last trailing : List Char) : List Char :=
  match chomping with
  | .strip => []
  | .clip => last
  | .keep => last ++ trailing

/-- Puts the pieces together. Folding turns the break between two lines that start without a blank
into a space, or drops it if empty lines follow. -/
def assemble (folded : Bool) (chomping : Chomping) :
    List Piece → (last : List Char) → (lastIndented : Bool) → (trailing : List Char) → List Char
  | [], last, _, trailing => chomp chomping last trailing
  | .empty ending :: pieces, last, lastIndented, trailing =>
    assemble folded chomping pieces last lastIndented (trailing ++ ending)
  | .text cs ending :: pieces, last, lastIndented, trailing =>
    let indented := cs.head?.any isGap
    let joint :=
      if folded && last.head? == some '\n' && !lastIndented && !indented then
        if trailing.isEmpty then [' '] else trailing
      else last ++ trailing
    joint ++ cs ++ assemble folded chomping pieces ending indented []

/-- The scalar under a header, with `least` columns of margin or more, and the rest of the text. -/
def read (folded : Bool) (least : Nat) (header : Header) (cs : List Char) :
    Option (List Char × List Char) := do
  let lines := splitLines cs
  let indent ← match header.indent with
    | some n => some (least - 1 + n)
    | none => (max (max least 1)) <$> widestMargin lines
  let (pieces, rest) ← takePieces indent lines
  return (assemble folded header.chomping pieces [] false [], joinLines rest)

end StageGate.Yaml.Block
