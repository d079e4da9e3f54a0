import StageGate.Text.Blank
import StageGate.Text.Letter

/-! Files with variables for the environment: lines `name=value`, with quotes, escapes, comments and
references to other variables. -/
namespace StageGate.Dotenv

/-- Variables in the order in which they were set. -/
abbrev Environment := List (String × String)

/-- How far a line is cut into its parts, seen from the next character. -/
inductive Scan
  | text
  | blank
  | escape
  | weak
  | weakEscape
  | strong
  | strongEscape
  | comment
deriving DecidableEq

def Scan.next (scan : Scan) (c : Char) : Scan :=
  let opening (other : Scan) : Scan :=
    if c = '\\' then .escape else if c = '"' then .weak else if c = '\'' then .strong else other
  match scan with
  | .comment => .comment
  | .blank => if c = '#' then .comment else opening .text
  | .text =>
    opening (if Text.isBlankChar c && c != '\n' && c != '\r' then .blank else .text)
  | .escape => .text
  | .weak => if c = '\\' then .weakEscape else if c = '"' then .text else .weak
  | .weakEscape => .weak
  | .strong => if c = '\\' then .strongEscape else if c = '\'' then .text else .strong
  | .strongEscape => .strong

/-- The text up to the end of the line at which no quote is open, without a comment, and the rest;
none if the text ends before that. -/
def cut : Scan → List Char → Option (List Char × List Char)
  | .text, [] => some ([], [])
  | .comment, [] => some ([], [])
  | _, [] => none
  | scan, c :: cs =>
    let scan := scan.next c
    if c = '\n' && (scan == .text || scan == .comment) then some ([], cs)
    else (cut scan cs).map fun (line, rest) => (if scan == .comment then line else c :: line, rest)

theorem cut_cons (scan : Scan) (c : Char) (cs : List Char) :
    cut scan (c :: cs) =
      if c = '\n' && (scan.next c == .text || scan.next c == .comment) then some ([], cs)
      else (cut (scan.next c) cs).map fun (line, rest) =>
        (if scan.next c == .comment then line else c :: line, rest) := by
  cases scan <;> rfl

theorem cut_length {scan : Scan} {cs line rest : List Char} (h : cut scan cs = some (line, rest)) :
    cs = [] ∧ rest = [] ∨ rest.length < cs.length := by
  induction cs generalizing scan line rest with
  | nil => cases scan <;> simp_all [cut]
  | cons c cs ih =>
    right
    rw [cut_cons] at h
    split at h
    · obtain ⟨_, rfl⟩ := Prod.mk.inj (Option.some.inj h)
      simp
    · obtain ⟨⟨line', rest'⟩, hcut, heq⟩ := Option.map_eq_some_iff.mp h
      obtain ⟨_, rfl⟩ := Prod.mk.inj heq
      rcases ih hcut with ⟨rfl, rfl⟩ | hlt
      · simp
      · simp
        omega

def isNameStart (c : Char) : Bool :=
  c.isAlpha || c == '_'

def isNameChar (c : Char) : Bool :=
  c.isAlphanum || c == '_' || c == '.'

def readName (cs : List Char) : Option (String × List Char) :=
  if cs.head?.any isNameStart then
    some (String.ofList (cs.takeWhile isNameChar), Text.trimLeft (cs.dropWhile isNameChar))
  else none

def afterEquals : List Char → Option (List Char)
  | '=' :: cs => some (Text.trimLeft cs)
  | _ => none

/-- Where a value is read: `reference` is behind a dollar sign, with the name so far, and `braced`
in braces behind one. -/
inductive Part
  | plain
  | ended
  | escape
  | strong
  | reference (name : List Char)
  | braced (name : List Char)

/-- What a reference stands for; variables that are not there are empty. -/
def lookUp (env : Environment) (name : List Char) : List Char :=
  ((env.lookup (String.ofList name)).getD "").toList

def escaped? (c : Char) : Option Char :=
  if c = 'n' then some '\n'
  else if c ∈ ['\\', '\'', '"', '$', ' '] then some c
  else none

/-- The value at the front of a line; `quoted` within double quotes. Letters and numbers make up a
reference without braces, and what ends it belongs to the text, whatever it is. -/
def readValue (env : Environment) : Part → (quoted : Bool) → List Char → Option (List Char)
  | .plain, quoted, [] => if quoted then none else some []
  | .ended, _, [] => some []
  | .escape, quoted, [] => if quoted then none else some []
  | .strong, _, [] => none
  | .reference name, quoted, [] => if quoted then none else some (lookUp env name)
  | .braced _, _, [] => none
  | .ended, quoted, c :: cs =>
    if c = ' ' || c = '\t' then readValue env .ended quoted cs
    else if c = '#' then some []
    else none
  | .escape, quoted, c :: cs => do
    return (← escaped? c) :: (← readValue env .plain quoted cs)
  | .strong, quoted, c :: cs =>
    if c = '\'' then readValue env .plain quoted cs
    else (readValue env .strong quoted cs).map (c :: ·)
  | .reference name, quoted, c :: cs =>
    if Text.isLetterOrNumber c then readValue env (.reference (name ++ [c])) quoted cs
    else if c = '\x7b' && name.isEmpty then readValue env (.braced []) quoted cs
    else if c = '$' then (readValue env (.reference []) quoted cs).map (lookUp env name ++ ·)
    else (readValue env .plain quoted cs).map (lookUp env name ++ c :: ·)
  | .braced name, quoted, c :: cs =>
    if c = '\x7d' then (readValue env .plain quoted cs).map (lookUp env name ++ ·)
    else readValue env (.braced (name ++ [c])) quoted cs
  | .plain, quoted, c :: cs =>
    if c = '$' then readValue env (.reference []) quoted cs
    else if c = '\\' then readValue env .escape quoted cs
    else if c = '"' then readValue env .plain (!quoted) cs
    else if quoted then (readValue env .plain quoted cs).map (c :: ·)
    else if c = '\'' then readValue env .strong quoted cs
    else if c = ' ' || c = '\t' then readValue env .ended quoted cs
    else (readValue env .plain quoted cs).map (c :: ·)

/-- An assignment may follow the word `export`, which is a name itself if it is assigned to. -/
def readAssignment (env : Environment) (cs : List Char) : Option (String × String) := do
  let (name, rest) ← readName cs
  let (name, rest) ←
    match afterEquals rest with
    | some rest => some (name, rest)
    | none =>
      if name = "export" then
        (readName rest).bind fun (name, rest) => (afterEquals rest).map (name, ·)
      else none
  if rest.isEmpty || rest.head? = some '#' then return (name, "")
  return (name, String.ofList (← readValue env .plain false rest))

/-- A line: blank, or a comment, or an assignment. -/
def readLine (env : Environment) (line : List Char) : Option (Option (String × String)) :=
  let cs := Text.trimChars line
  if cs.isEmpty || cs.head? = some '#' then some none else some <$> readAssignment env cs

/-- What is assigned first stays, and so does what the environment has already. -/
def assign (env : Environment) (name value : String) : Environment :=
  if (env.lookup name).isSome then env else env ++ [(name, value)]

def isCommentLine (cs : List Char) : Bool :=
  (Text.trimLeft (cs.takeWhile (· != '\n'))).head? = some '#'

/-- The environment with the assignments of a text, up to the first line that is none. -/
def loadLines (env : Environment) (text : List Char) : Environment :=
  if _ht : text = [] then env
  else if isCommentLine text then loadLines env (text.dropWhile (· != '\n')).tail
  else
    match _h : cut .text text with
    | none => env
    | some (line, rest) =>
      match readLine env line with
      | none => env
      | some none => loadLines env rest
      | some (some (name, value)) => loadLines (assign env name value) rest
termination_by text.length
decreasing_by
  · have := (List.dropWhile_sublist (fun c => c != '\n') (l := text)).length_le
    have := List.length_pos_iff.mpr _ht
    simp only [List.length_tail]
    omega
  all_goals
    rcases cut_length _h with ⟨h, _⟩ | h
    · exact absurd h _ht
    · exact h

/-- A byte order mark in front does not count. -/
def load (env : Environment) (text : String) : Environment :=
  match text.toList with
  | '\uFEFF' :: cs => loadLines env cs
  | cs => loadLines env cs

end StageGate.Dotenv
