import StageGate.Yaml.Node
import StageGate.Yaml.Token

/-! Nodes out of tokens. -/
namespace StageGate.Yaml

/-- A node with an anchor, and how large the document was when it began. -/
structure Anchored where
  place : Nat
  node : Node

/-- The tokens still to come; the numbers of the anchors by name, and their nodes by number. Of what
was read so far, `size` counts scalars, references and the ends of collections. -/
structure Supply where
  tokens : List Token
  numbers : Std.HashMap String Nat
  anchored : Std.HashMap Nat Anchored
  size : Nat

abbrev Supplied := StateT Supply Option

namespace Supplied

def peek : Supplied (Option Token) := do
  return (← get).tokens.head?

def skip : Supplied Unit :=
  modify fun s => { s with tokens := s.tokens.tail }

def expect (t : Token) : Supplied Unit := do
  if (← peek) != some t then failure
  skip

def grow (n : Nat) : Supplied Unit :=
  modify fun s => { s with size := s.size + n }

/-- Reads a node behind an anchor. Its number is how many names there were before. A name that comes
again takes a new number without adding to them, so the next anchor has that number too, and the
node that begins last keeps it. -/
def anchor (name : Option String) (read : Supplied Node) : Supplied Node := do
  match name with
  | none => read
  | some name =>
    let s ← get
    let number := s.numbers.size
    set { s with
      numbers := s.numbers.insert name number
      anchored := s.anchored.insert number ⟨s.size, .absent⟩ }
    let node ← read
    modify fun t =>
      if (t.anchored[number]?).any (·.place = s.size) then
        { t with anchored := t.anchored.insert number ⟨s.size, node⟩ }
      else t
    return node

/-- A reference to an anchor before it. -/
def reference (name : String) : Supplied Node := do
  grow 1
  return .reference (← (← get).numbers[name]?)

/-- What is not written is null. -/
def absent : Supplied Node := do
  grow 1
  return .absent

end Supplied

open Supplied

/-- What the handles of tags stand for. -/
abbrev Handles := List (String × List UInt8)

/-- The lead of the tags that every document knows. -/
def standardLead : List UInt8 :=
  "tag:yaml.org,2002:".toUTF8.toList

def Handles.standard : Handles :=
  [("!", "!".toUTF8.toList), ("!!", standardLead)]

def text? (bytes : List UInt8) : Option String :=
  String.fromUTF8? ⟨bytes.toArray⟩

/-- What a tag says. One of the document's own that is no text says nothing. -/
def tagOf? (handles : Handles) (handle : String) (rest : List UInt8) : Option (Option Tag) := do
  let lead ← if handle = "" then some [] else handles.lookup handle
  let full := lead ++ rest
  if "!".toUTF8.toList.isPrefixOf full then
    return (text? full).map fun _ => .own
  else if standardLead.isPrefixOf full then
    return some (((text? (full.drop standardLead.length)).map .standard).getD .foreign)
  else return some .foreign

/-- The anchor and the tag before a node, each at most once, and whether there are any. -/
def properties (handles : Handles) : Supplied (Option String × Option Tag × Bool) := do
  let name ← anchorName
  let tag ← tagName
  let name ← if name.isNone then anchorName else pure name
  match tag with
  | some (handle, rest) => return (name, ← tagOf? handles handle rest, true)
  | none => return (name, none, name.isSome)
where
  anchorName : Supplied (Option String) := do
    match ← peek with
    | some (.anchor name) => skip; return some name
    | _ => return none
  tagName : Supplied (Option (String × List UInt8)) := do
    match ← peek with
    | some (.tag handle rest) => skip; return some (handle, rest)
    | _ => return none

/-- Nothing stands where one of these comes next. -/
def isAbsentBefore (ends : List Token) : Supplied Bool := do
  match ← peek with
  | some t => return t ∈ ends
  | none => return false

/-- Whether a collection begins with a token. -/
def opens (block flush : Bool) : Token → Bool
  | .openFlowSequence | .openFlowMapping => true
  | .openBlockSequence | .openBlockMapping => block
  | .blockEntry => flush
  | _ => false

mutual

/-- A node; `block` if it may be a block, and `flush` if it may be a sequence without margin. -/
def node (handles : Handles) : (fuel : Nat) → (block flush : Bool) → Supplied Node
  | 0, _, _ => failure
  | fuel + 1, block, flush => do
    match ← peek with
    | some (.alias name) => skip; reference name
    | _ =>
      let (name, tag, isMarked) ← properties handles
      anchor name (content handles fuel block flush tag isMarked)

/-- A node behind its anchor and tag. Only a scalar has use for a tag, and only behind one of them
may it be absent. -/
def content (handles : Handles) :
    (fuel : Nat) → (block flush : Bool) → Option Tag → (isMarked : Bool) → Supplied Node
  | 0, _, _, _, _ => failure
  | fuel + 1, block, flush, tag, isMarked => do
    match ← peek with
    | some (.scalar plain text) => skip; grow 1; return .scalar tag plain text
    | t =>
      if t.any (opens block flush) then
        if tag = some .own then failure
        collection handles fuel
      else
        if !isMarked then failure
        grow 1
        return .scalar tag true ""

def collection (handles : Handles) : (fuel : Nat) → Supplied Node
  | 0 => failure
  | fuel + 1 => do
    grow 2
    match ← peek with
    | some .openFlowSequence => skip; return .sequence (← flowItems handles fuel true)
    | some .openFlowMapping => skip; return .mapping (← flowEntries handles fuel true)
    | some .openBlockSequence => skip; return .sequence (← blockItems handles fuel)
    | some .openBlockMapping => skip; return .mapping (← blockEntries handles fuel)
    | _ => return .sequence (← flushItems handles fuel)

def blockItems (handles : Handles) : (fuel : Nat) → Supplied (List Node)
  | 0 => failure
  | fuel + 1 => do
    match ← peek with
    | some .blockEntry =>
      skip
      let item ← if ← isAbsentBefore [.blockEntry, .closeBlock] then absent
        else node handles fuel true false
      return item :: (← blockItems handles fuel)
    | _ => expect .closeBlock; return []

/-- The items of a sequence that stands at the margin of the mapping around it. -/
def flushItems (handles : Handles) : (fuel : Nat) → Supplied (List Node)
  | 0 => failure
  | fuel + 1 => do
    match ← peek with
    | some .blockEntry =>
      skip
      let item ← if ← isAbsentBefore [.blockEntry, .key, .value, .closeBlock] then absent
        else node handles fuel true false
      return item :: (← flushItems handles fuel)
    | _ => return []

def blockEntries (handles : Handles) : (fuel : Nat) → Supplied (List (Node × Node))
  | 0 => failure
  | fuel + 1 => do
    match ← peek with
    | some .key =>
      skip
      let name ← if ← isAbsentBefore [.key, .value, .closeBlock] then absent
        else node handles fuel true true
      match ← peek with
      | some .value =>
        skip
        let value ← if ← isAbsentBefore [.key, .value, .closeBlock] then absent
          else node handles fuel true true
        return (name, value) :: (← blockEntries handles fuel)
      | _ => return (name, ← absent) :: (← blockEntries handles fuel)
    | _ => expect .closeBlock; return []

/-- The items of a sequence within brackets. A question mark makes an item a mapping; if no name
follows it, the sign that does is passed over. -/
def flowItems (handles : Handles) : (fuel : Nat) → (first : Bool) → Supplied (List Node)
  | 0, _ => failure
  | fuel + 1, first => do
    if (← peek) = some .closeFlowSequence then
      skip
      return []
    if !first then expect .flowEntry
    match ← peek with
    | some .closeFlowSequence => skip; return []
    | some .key =>
      skip
      grow 2
      let name ← if ← isAbsentBefore [.value, .flowEntry, .closeFlowSequence] then skip; absent
        else node handles fuel false false
      let value ← flowValue handles fuel .closeFlowSequence
      return .mapping [(name, value)] :: (← flowItems handles fuel false)
    | _ => return (← node handles fuel false false) :: (← flowItems handles fuel false)

def flowEntries (handles : Handles) : (fuel : Nat) → (first : Bool) → Supplied (List (Node × Node))
  | 0, _ => failure
  | fuel + 1, first => do
    if (← peek) = some .closeFlowMapping then
      skip
      return []
    if !first then expect .flowEntry
    match ← peek with
    | some .closeFlowMapping => skip; return []
    | some .key =>
      skip
      let name ← if ← isAbsentBefore [.value, .flowEntry, .closeFlowMapping] then absent
        else node handles fuel false false
      let value ← flowValue handles fuel .closeFlowMapping
      return (name, value) :: (← flowEntries handles fuel false)
    | _ => return (← node handles fuel false false, ← absent) :: (← flowEntries handles fuel false)

/-- The value of an entry within brackets, of which `close` is the closing one. -/
def flowValue (handles : Handles) : (fuel : Nat) → (close : Token) → Supplied Node
  | 0, _ => failure
  | fuel + 1, close => do
    match ← peek with
    | some .value =>
      skip
      if ← isAbsentBefore [.flowEntry, close] then absent
      else node handles fuel false false
    | _ => absent

end

/-- The directives before a document: at most one version, which has to be 1.1 or 1.2, and at most
one meaning for each handle. -/
def directives : List Token → (versioned : Bool) → Handles → Option (Handles × List Token)
  | .version major minor :: tokens, versioned, handles =>
    if versioned || major != 1 || !(minor == 1 || minor == 2) then none
    else directives tokens true handles
  | .tagDirective handle lead :: tokens, versioned, handles =>
    if (handles.lookup handle).isSome then none
    else directives tokens versioned ((handle, lead) :: handles)
  | tokens, _, handles => some (handles, tokens)

/-- Reads a document with a start of its own. -/
def startedDocument (handles : Handles) (fuel : Nat) : Supplied Node := do
  expect .documentStart
  match ← peek with
  | none | some .documentStart | some .documentEnd | some (.version _ _)
  | some (.tagDirective _ _) => absent
  | _ => node (handles ++ Handles.standard) fuel true false

/-- References may be followed so many times for each part of a document. -/
def mostRepetition : Nat := 100

/-- The only document among the tokens; without any tokens it is absent. -/
def Document.ofTokens? (tokens : List Token) : Option Document := do
  let fuel := 6 * tokens.length + 16
  let (handles, rest) ← directives tokens false []
  let read :=
    if rest.length < tokens.length || rest.head? = some .documentStart then
      startedDocument handles fuel
    else if rest.isEmpty then absent
    else node Handles.standard fuel true false
  let (root, left) ← read.run ⟨rest, {}, {}, 0⟩
  if (left.tokens.dropWhile (· == .documentEnd)).isEmpty then
    return ⟨root, left.anchored.map fun _ target => target.node, mostRepetition * left.size⟩
  else none

end StageGate.Yaml
