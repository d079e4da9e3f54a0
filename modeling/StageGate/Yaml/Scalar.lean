import StageGate.Yaml.Cursor

/-! Plain and quoted scalars. They may run over several lines, which are folded. -/
namespace StageGate.Yaml

/-- What lies between two words of a scalar: blanks on one line, or line breaks, of which the first
may be escaped. -/
structure Gap where
  blanks : List Char
  breaks : List Char
  escaped : Bool

namespace Gap

def none : Gap := ⟨[], [], false⟩

/-- Whether the gap goes over the end of a line. -/
def isOpen (gap : Gap) : Bool :=
  gap.escaped || !gap.breaks.isEmpty

/-- Blanks count only before the end of the line. -/
def addBlank (gap : Gap) (c : Char) : Gap :=
  if gap.isOpen then gap else { gap with blanks := gap.blanks ++ [c] }

def addBreak (gap : Gap) (c : Char) : Gap :=
  { gap with breaks := gap.breaks ++ [c] }

/-- What stands for the gap in the text: a single break is a space, of more the first is dropped. -/
def fold (gap : Gap) : List Char :=
  if gap.escaped then gap.breaks
  else
    match gap.breaks with
    | [] => gap.blanks
    | ['\n'] => [' ']
    | '\n' :: breaks => breaks
    | breaks => breaks

end Gap

/-- The text of a scalar and the place behind it; `broken` if that is on a line of its own. -/
structure Scalar where
  text : List Char
  after : Cursor
  broken : Bool

def Scalar.cons (text : List Char) (s : Scalar) : Scalar :=
  { s with text := text ++ s.text }

def isFlowSign (c : Char) : Bool :=
  c ∈ [',', '[', ']', '\x7b', '\x7d']

/-- A plain scalar goes on up to a colon or a comment, to less than `indent` columns, or, within
brackets, to a sign that belongs to them. -/
def plain (flow : Bool) (indent : Nat) : List Char → Spot → Gap → Option Scalar
  | [], spot, gap => some ⟨[], ⟨spot, []⟩, gap.isOpen⟩
  | c :: cs, spot, gap =>
    let stop := some ⟨[], ⟨spot, c :: cs⟩, gap.isOpen⟩
    if isGap c then
      if gap.isOpen && spot.column < indent && c == '\t' then none
      else plain flow indent cs (spot.next c) (gap.addBlank c)
    else if isBreak c then plain flow indent cs (spot.next c) (gap.addBreak c)
    else if gap.isOpen && !flow && spot.column < indent then stop
    else if spot.column == 0 && isMarker (c :: cs) then stop
    else if c == '#' && (gap.isOpen || !gap.blanks.isEmpty) then stop
    else if flow && c == ':' && cs.head?.any (fun d => isFlowSign d || d == '?') then none
    else if c == ':' && atGap cs then stop
    else if flow && isFlowSign c then stop
    else (plain flow indent cs (spot.next c) .none).map (.cons (gap.fold ++ [c]))

/-- Between single quotes a doubled quote stands for itself. -/
def singleQuoted : List Char → Spot → Gap → Option Scalar
  | [], _, _ => none
  | '\'' :: '\'' :: cs, spot, gap =>
    (singleQuoted cs ((spot.next '\'').next '\'') .none).map (.cons (gap.fold ++ ['\'']))
  | c :: cs, spot, gap =>
    if isGap c then singleQuoted cs (spot.next c) (gap.addBlank c)
    else if isBreak c then singleQuoted cs (spot.next c) (gap.addBreak c)
    else if spot.column == 0 && isMarker (c :: cs) then none
    else if c == '\'' then some ⟨gap.fold, ⟨spot.next c, cs⟩, false⟩
    else (singleQuoted cs (spot.next c) .none).map (.cons (gap.fold ++ [c]))

/-- What a character stands for behind a backslash. -/
def escaped? (c : Char) : Option Char :=
  match c with
  | '0' => some '\x00'
  | 'a' => some '\x07'
  | 'b' => some '\x08'
  | 't' | '\t' => some '\t'
  | 'n' => some '\n'
  | 'v' => some '\x0b'
  | 'f' => some '\x0c'
  | 'r' => some '\r'
  | 'e' => some '\x1b'
  | ' ' => some ' '
  | '"' => some '"'
  | '/' => some '/'
  | '\\' => some '\\'
  | 'N' => some '\u0085'
  | '_' => some '\u00A0'
  | 'L' => some '\u2028'
  | 'P' => some '\u2029'
  | _ => none

/-- How many digits of a character's number follow. -/
def codeDigits? (c : Char) : Option Nat :=
  match c with
  | 'x' => some 2
  | 'u' => some 4
  | 'U' => some 8
  | _ => none

def hexDigit? (c : Char) : Option Nat :=
  if c.isDigit then some (c.toNat - 48)
  else if 'a' ≤ c ∧ c ≤ 'f' then some (c.toNat - 87)
  else if 'A' ≤ c ∧ c ≤ 'F' then some (c.toNat - 55)
  else none

def charOfCode? (n : Nat) : Option Char :=
  if h : n.isValidChar then some (Char.ofNatAux n h) else none

/-- Where a double quoted scalar is: in its text, behind a backslash, or in the number of a
character, with so many digits still to come. -/
inductive Mode
  | text
  | escape
  | code (left value : Nat)

def doubleQuoted : Mode → List Char → Spot → Gap → Option Scalar
  | _, [], _, _ => none
  | .code left value, c :: cs, spot, gap => do
    let value := 16 * value + (← hexDigit? c)
    if left ≤ 1 then
      (← doubleQuoted .text cs (spot.next c) gap).cons [← charOfCode? value]
    else doubleQuoted (.code (left - 1) value) cs (spot.next c) gap
  | .escape, c :: cs, spot, gap =>
    if isBreak c then doubleQuoted .text cs (spot.next c) ⟨[], [], true⟩
    else
      match codeDigits? c with
      | some digits => doubleQuoted (.code digits 0) cs (spot.next c) gap
      | none => do (← doubleQuoted .text cs (spot.next c) gap).cons [← escaped? c]
  | .text, c :: cs, spot, gap =>
    if isGap c then doubleQuoted .text cs (spot.next c) (gap.addBlank c)
    else if isBreak c then doubleQuoted .text cs (spot.next c) (gap.addBreak c)
    else if spot.column == 0 && isMarker (c :: cs) then none
    else if c == '"' then some ⟨gap.fold, ⟨spot.next c, cs⟩, false⟩
    else if c == '\\' then
      (doubleQuoted .escape cs (spot.next c) .none).map (.cons gap.fold)
    else (doubleQuoted .text cs (spot.next c) .none).map (.cons (gap.fold ++ [c]))

end StageGate.Yaml
