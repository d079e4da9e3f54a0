import StageGate.Text.Number
import StageGate.Yaml.Block
import StageGate.Yaml.Scalar
import StageGate.Yaml.Token

/-! Cutting a text into tokens. That something is the name of an entry shows only at the colon
behind it, so every place where a name may have begun is kept until then. -/
namespace StageGate.Yaml

/-- A place where the name of an entry may have begun: so many tokens before it, and where. It has
to be a name if nothing else may stand there. -/
structure NamePlace where
  before : Nat
  spot : Spot
  isRequired : Bool

/-- The names that are possible, innermost bracket first; `blocks` has the columns of the open
blocks, innermost first. The tokens come in reverse, and `count` is how many there are. -/
structure Lexer where
  here : Cursor
  tokens : List Token
  count : Nat
  blocks : List Nat
  names : List (Option NamePlace)
  nameAllowed : Bool

namespace Lexer

/-- Whether the place is within brackets. -/
def inFlow (l : Lexer) : Bool :=
  1 < l.names.length

/-- The least column of what belongs to the innermost block. -/
def leastColumn (l : Lexer) : Nat :=
  match l.blocks with
  | [] => 0
  | column :: _ => column + 1

def emit (l : Lexer) (t : Token) : Lexer :=
  { l with tokens := t :: l.tokens, count := l.count + 1 }

def insertAt (l : Lexer) (place : Nat) (t : Token) : Lexer :=
  { l with tokens := l.tokens.insertIdx (l.count - place) t, count := l.count + 1 }

def moveTo (l : Lexer) (here : Cursor) : Lexer :=
  { l with here }

def advance (l : Lexer) (n : Nat) : Lexer :=
  l.moveTo (l.here.skip n)

def allowName (l : Lexer) (allowed : Bool) : Lexer :=
  { l with nameAllowed := allowed }

/-- A name has to stay on its line, and within 1024 bytes. -/
def isStale (l : Lexer) (name : NamePlace) : Bool :=
  name.spot.line < l.here.line || name.spot.offset + 1024 < l.here.offset

def dropStale (l : Lexer) : Option Lexer := do
  let names ← l.names.mapM fun
    | some name => if l.isStale name then if name.isRequired then none else some none
        else some (some name)
    | none => some none
  return { l with names }

/-- No name began here after all. -/
def dropName (l : Lexer) : Option Lexer :=
  match l.names with
  | [] => some l
  | none :: _ => some l
  | some name :: outer => if name.isRequired then none else some { l with names := none :: outer }

/-- A name may begin here. -/
def markName (l : Lexer) : Option Lexer :=
  if l.nameAllowed then do
    let l ← l.dropName
    let name : NamePlace := {
      before := l.count
      spot := l.here.toSpot
      isRequired := !l.inFlow && l.blocks.head? == some l.here.column }
    return { l with names := some name :: l.names.drop 1 }
  else some l

/-- Opens a block at a column that is further in than the innermost one. -/
def openBlock (l : Lexer) (column place : Nat) (t : Token) : Lexer :=
  if l.inFlow || column < l.leastColumn then l
  else { l.insertAt place t with blocks := column :: l.blocks }

/-- Closes the blocks that are further in than `least`. -/
def closeBlocks (least : Nat) : List Nat → Lexer → Lexer
  | [], l => { l with blocks := [] }
  | column :: outer, l =>
    if column < least then { l with blocks := column :: outer }
    else closeBlocks least outer (l.emit .closeBlock)

/-- Closes the blocks to which nothing at this column belongs. -/
def unindent (l : Lexer) : Lexer :=
  if l.inFlow then l else closeBlocks (l.here.column + 1) l.blocks l

def closeAll (l : Lexer) : Lexer :=
  if l.inFlow then l else closeBlocks 0 l.blocks l

/-- Passes blanks, comments, line breaks and byte order marks. Where a name may begin, a tab is no
blank. -/
def skipGaps : Nat → Lexer → Lexer
  | 0, l => l
  | fuel + 1, l =>
    let isSkipped (c : Char) := c == ' ' || (c == '\t' && (l.inFlow || !l.nameAllowed))
    let (_, here) := l.here.skipMark.span isSkipped
    let here := if here.rest.head? = some '#' then (here.span (!isBreak ·)).2 else here
    match here.rest with
    | c :: _ =>
      if isBreak c then
        skipGaps fuel { l with here := here.next, nameAllowed := l.nameAllowed || !l.inFlow }
      else l.moveTo here
    | [] => l.moveTo here

def openFlow (l : Lexer) (t : Token) : Option Lexer := do
  let l ← l.markName
  return { (l.emit t).advance 1 with names := none :: l.names, nameAllowed := true }

def closeFlow (l : Lexer) (t : Token) : Option Lexer := do
  let l ← l.dropName
  let names := if l.inFlow then l.names.drop 1 else l.names
  return { (l.emit t).advance 1 with names, nameAllowed := false }

def flowEntry (l : Lexer) : Option Lexer := do
  return ((← l.dropName).emit .flowEntry |>.advance 1).allowName true

def blockEntry (l : Lexer) : Option Lexer := do
  if !l.inFlow && !l.nameAllowed then none
  let l := l.openBlock l.here.column l.count .openBlockSequence
  return ((← l.dropName).emit .blockEntry |>.advance 1).allowName true

/-- A question mark before a name. -/
def explicitName (l : Lexer) : Option Lexer := do
  if !l.inFlow && !l.nameAllowed then none
  let l := l.openBlock l.here.column l.count .openBlockMapping
  let l ← l.dropName
  return (l.emit .key |>.advance 1).allowName !l.inFlow

/-- The colon behind a name. -/
def entryValue (l : Lexer) : Option Lexer := do
  match l.names with
  | some name :: outer =>
    let l := { l with names := none :: outer }
    let l := (l.insertAt name.before .key).openBlock name.spot.column name.before .openBlockMapping
    return (l.emit .value |>.advance 1).allowName false
  | _ =>
    if !l.inFlow && !l.nameAllowed then none
    let l := l.openBlock l.here.column l.count .openBlockMapping
    return (l.emit .value |>.advance 1).allowName !l.inFlow

/-- The name of an anchor, with the place behind it. -/
def anchorName (here : Cursor) : Option (String × Cursor) :=
  let (cs, here) := here.span isWordChar
  let isEnd :=
    atGap here.rest || here.rest.head?.any (· ∈ ['?', ':', ',', ']', '\x7d', '%', '@', '\x60'])
  if cs.isEmpty || !isEnd then none else some (String.ofList cs, here)

def anchor (l : Lexer) (token : String → Token) : Option Lexer := do
  let l ← l.markName
  let (name, here) ← anchorName l.here.next
  return ((l.emit (token name)).moveTo here).allowName false

def isTagChar (c : Char) : Bool :=
  isWordChar c || c ∈ ";/?:@&=+$.%!~*'()".toList

def isUriChar (c : Char) : Bool :=
  isTagChar c || c ∈ [',', '[', ']']

/-- How many bytes of a character follow its first one. -/
def followers? (byte : Nat) : Option Nat :=
  if byte < 0x80 then some 0
  else if byte < 0xC0 then none
  else if byte < 0xE0 then some 1
  else if byte < 0xF0 then some 2
  else if byte < 0xF8 then some 3
  else none

/-- What is left to follow of a character behind one more of its bytes. -/
def owedBehind? (owed byte : Nat) : Option Nat :=
  if owed = 0 then followers? byte
  else if 0x80 ≤ byte ∧ byte < 0xC0 then some (owed - 1)
  else none

/-- A byte may be written as a percent sign with two digits; then so are the others of its
character, of which `owed` are still to come. -/
def uriBytes : (owed : Nat) → List Char → Option (List UInt8)
  | owed, [] => if owed = 0 then some [] else none
  | owed, '%' :: a :: b :: cs => do
    let byte := 16 * (← hexDigit? a) + (← hexDigit? b)
    return UInt8.ofNat byte :: (← uriBytes (← owedBehind? owed byte) cs)
  | owed, c :: cs => do
    if c == '%' || owed != 0 then none
    return UInt8.ofNat c.toNat :: (← uriBytes 0 cs)

/-- The bytes of a part of a tag. It ends at a null. -/
def uriPart (cs : List Char) : Option (List UInt8) :=
  (uriBytes 0 cs).map (·.takeWhile (· != 0))

/-- The sign at the front of a tag: an exclamation mark, or a word between two of them. -/
def tagHandle (here : Cursor) : Option (String × Cursor) :=
  match here.rest with
  | '!' :: _ =>
    let (word, after) := here.next.span isWordChar
    match after.rest with
    | '!' :: _ => some (String.ofList ('!' :: word ++ ['!']), after.next)
    | _ => some (String.ofList ('!' :: word), after)
  | _ => none

/-- The two parts of a tag, with the place behind it. The lone mark has no handle. -/
def tagParts (here : Cursor) : Option (String × List UInt8 × Cursor) := do
  match here.rest with
  | '!' :: '<' :: _ =>
    let (uri, here) := (here.skip 2).span isUriChar
    if uri.isEmpty || here.rest.head? != some '>' then none
    return ("", ← uriPart uri, here.next)
  | _ =>
    let (handle, after) ← tagHandle here
    let (rest, behind) := after.span isTagChar
    if 1 < handle.length && handle.back == '!' then
      if rest.isEmpty then none
      return (handle, ← uriPart rest, behind)
    else
      match ← uriPart (handle.toList.drop 1 ++ rest) with
      | [] => return ("", "!".toUTF8.toList, behind)
      | bytes => return ("!", bytes, behind)

def tag (l : Lexer) : Option Lexer := do
  let l ← l.markName
  let (handle, rest, here) ← tagParts l.here
  if !atGap here.rest && !(l.inFlow && here.rest.head? == some ',') then none
  return ((l.emit (.tag handle rest)).moveTo here).allowName false

/-- The rest of a line may hold blanks and a comment. -/
def lineRest (here : Cursor) : Option Cursor :=
  let here := here.skipGaps
  let here := if here.rest.head? = some '#' then (here.span (!isBreak ·)).2 else here
  match here.rest with
  | [] => some here
  | c :: _ => if isBreak c then some here.next else none

def blockScalar (l : Lexer) (folded : Bool) : Option Lexer := do
  let l ← l.dropName
  let sign := l.here.next
  let (header, rest) ← Block.readHeader sign.rest
  let here ← lineRest (sign.skip (sign.rest.length - rest.length))
  let (text, rest) ← Block.read folded l.leastColumn header here.rest
  let l := l.moveTo (here.skip (here.rest.length - rest.length))
  return (l.emit (.scalar false (String.ofList text))).allowName true

def scalar (l : Lexer) (plain : Bool) (read : Cursor → Option Scalar) : Option Lexer := do
  let l ← l.markName
  let s ← read l.here
  return ((l.emit (.scalar plain (String.ofList s.text))).moveTo s.after).allowName s.broken

def quotedScalar (l : Lexer)
    (read : List Char → Spot → Gap → Option Scalar) : Option Lexer :=
  l.scalar false fun here => read here.next.rest here.next.toSpot .none

def plainScalar (l : Lexer) : Option Lexer :=
  l.scalar true fun here => plain l.inFlow l.leastColumn here.rest here.toSpot .none

def startsPlain (l : Lexer) (c : Char) (cs : List Char) : Bool :=
  if c == '-' then !cs.head?.any isGap
  else if c == '?' || c == ':' then !l.inFlow && !atGap cs
  else !(isGap c || isBreak c || isFlowSign c || c ∈ "#&*!|>'\"%@\x60".toList)

/-- A line that starts with a percent sign: the version, or the meaning of a tag handle. -/
def directive (l : Lexer) : Option Lexer := do
  let l ← l.closeAll.dropName
  let (name, here) := l.here.next.span isWordChar
  if !atGap here.rest then none
  match String.ofList name with
  | "YAML" =>
    let (major, here) := here.skipGaps.span Char.isDigit
    if major.isEmpty || 9 < major.length || here.rest.head? != some '.' then none
    let (minor, here) := here.next.span Char.isDigit
    if minor.isEmpty || 9 < minor.length then none
    let here ← lineRest here
    let version := Token.version (Text.digitsValue major) (Text.digitsValue minor)
    return ((l.emit version).moveTo here).allowName false
  | "TAG" =>
    let (handle, here) ← tagHandle here.skipGaps
    if handle.back != '!' then none
    if !here.rest.head?.any isGap then none
    let (lead, here) := here.skipGaps.span isUriChar
    if lead.isEmpty || !atGap here.rest then none
    let here ← lineRest here
    return ((l.emit (.tagDirective handle (← uriPart lead))).moveTo here).allowName false
  | _ => none

def marker (l : Lexer) (t : Token) : Option Lexer := do
  let l ← l.closeAll.dropName
  return (l.emit t |>.advance 3).allowName false

/-- Reads one token, with the blocks that it opens or closes. -/
def step (l : Lexer) (c : Char) (cs : List Char) : Option Lexer :=
  if l.here.column == 0 && c == '%' then l.directive
  else if l.here.column == 0 && isMarker (c :: cs) then
    l.marker (if c == '-' then .documentStart else .documentEnd)
  else
    match c with
    | '[' => l.openFlow .openFlowSequence
    | '\x7b' => l.openFlow .openFlowMapping
    | ']' => l.closeFlow .closeFlowSequence
    | '\x7d' => l.closeFlow .closeFlowMapping
    | ',' => l.flowEntry
    | '*' => l.anchor .alias
    | '&' => l.anchor .anchor
    | '!' => l.tag
    | '\'' => l.quotedScalar singleQuoted
    | '"' => l.quotedScalar (doubleQuoted .text)
    | _ =>
      if c == '-' && atGap cs then l.blockEntry
      else if c == '?' && (l.inFlow || atGap cs) then l.explicitName
      else if c == ':' && (l.inFlow || atGap cs) then l.entryValue
      else if (c == '|' || c == '>') && !l.inFlow then l.blockScalar (c == '>')
      else if l.startsPlain c cs then l.plainScalar
      else none

/-- Each step passes a character or more, so there are never more characters left than steps. -/
def run : Nat → Lexer → Option (List Token)
  | 0, _ => none
  | fuel + 1, l => do
    let l := l.skipGaps (fuel + 1)
    let l ← l.dropStale
    match l.here.rest with
    | [] =>
      let l ← l.closeAll.dropName
      return l.tokens.reverse
    | c :: cs => run fuel (← l.unindent.step c cs)

end Lexer

/-- The tokens of a text, if it can be cut into tokens. -/
def Token.ofText? (text : List Char) : Option (List Token) :=
  Lexer.run (text.length + 1) ⟨⟨⟨0, 0, 0⟩, text⟩, [], 0, [], [none], true⟩

end StageGate.Yaml
