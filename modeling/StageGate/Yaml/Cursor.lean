/-! Places in the text of a YAML document. -/
namespace StageGate.Yaml

/-- The characters that end a line. -/
def isBreak (c : Char) : Bool :=
  c == '\n' || c == '\u2028' || c == '\u2029'

def isGap (c : Char) : Bool :=
  c == ' ' || c == '\t'

/-- Nothing follows, or a blank or a line break does. -/
def atGap : List Char → Bool
  | [] => true
  | c :: _ => isGap c || isBreak c

def isWordChar (c : Char) : Bool :=
  c.isAlphanum || c == '_' || c == '-'

/-- Three dashes or dots alone; they part documents if they open a line. -/
def isMarker : List Char → Bool
  | '-' :: '-' :: '-' :: rest => atGap rest
  | '.' :: '.' :: '.' :: rest => atGap rest
  | _ => false

/-- Line breaks of three kinds become one. -/
def unifyBreaks : List Char → List Char
  | [] => []
  | '\r' :: '\n' :: cs => '\n' :: unifyBreaks cs
  | c :: cs => (if c = '\r' ∨ c = '\u0085' then '\n' else c) :: unifyBreaks cs

/-- Characters that may stand in a document. -/
def isPrintable (c : Char) : Bool :=
  let n := c.toNat
  n == 9 || n == 10 || n == 13 || (0x20 ≤ n && n ≤ 0x7E) || n == 0x85 ||
    (0xA0 ≤ n && n ≤ 0xFFFD) || 0x10000 ≤ n

/-- The text with one kind of line break, if all of it is printable. -/
def cleanText (text : String) : Option (List Char) :=
  let cs := text.toList
  if cs.all isPrintable then some (unifyBreaks cs) else none

/-- Lines and columns count characters from zero, and `offset` counts bytes. -/
structure Spot where
  line : Nat
  column : Nat
  offset : Nat

/-- The spot behind a character. -/
def Spot.next (spot : Spot) (c : Char) : Spot :=
  let offset := spot.offset + c.utf8Size
  if isBreak c then ⟨spot.line + 1, 0, offset⟩ else ⟨spot.line, spot.column + 1, offset⟩

/-- A spot with the text from there on. -/
structure Cursor extends Spot where
  rest : List Char

namespace Cursor

def next (here : Cursor) : Cursor :=
  match here.rest with
  | [] => here
  | c :: cs => ⟨here.toSpot.next c, cs⟩

def skip : Nat → Cursor → Cursor
  | 0, here => here
  | n + 1, here => skip n here.next

/-- The characters up to the first that does not pass, and the place behind them. -/
def span (pass : Char → Bool) (here : Cursor) : List Char × Cursor :=
  let cs := here.rest.takeWhile pass
  (cs, here.skip cs.length)

def skipGaps (here : Cursor) : Cursor :=
  (here.span isGap).2

/-- A line may open with a byte order mark, which takes up a column. -/
def skipMark (here : Cursor) : Cursor :=
  if here.column == 0 && here.rest.head? == some '\uFEFF' then here.next else here

end Cursor
end StageGate.Yaml
