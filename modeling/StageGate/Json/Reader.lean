import StageGate.Json.Flaw
import StageGate.Json.Number

/-! Reading documents, with the place of the first flaw. -/
namespace StageGate.Json

abbrev Reader := StateT (List Char) (Except Stop)

namespace Reader

variable {α : Type}

/-- Stop where reading stands. -/
def stop (flaw : Flaw) : Reader α := fun rest => .error ⟨flaw, rest, 0⟩

/-- Stop behind the next byte, or at the end. -/
def stopBehind (flaw : Flaw) : Reader α :=
  fun rest => .error ⟨flaw, rest, if rest.isEmpty then 0 else 1⟩

def skipBlanks : Reader Unit :=
  modify (·.dropWhile fun c => c = ' ' || c = '\n' || c = '\t' || c = '\r')

def word : List Char → Reader Unit
  | [] => pure ()
  | expected :: word' => do
    match ← get with
    | [] => stop .endInValue
    | c :: rest => if c = expected then set rest; word word' else stopBehind .badWord

def digits : Reader (List Nat) := do
  let rest ← get
  set (rest.dropWhile Char.isDigit)
  return (rest.takeWhile Char.isDigit).map (·.toNat - 48)

/-- A decimal power, or nothing right behind the digit that makes it exceed 31 bits. -/
def power (n : Nat) : List Char → Option Nat × List Char
  | [] => (some n, [])
  | c :: rest =>
    if c.isDigit then
      let n' := 10 * n + (c.toNat - 48)
      if n' < 0x80000000 then power n' rest else (none, rest)
    else (some n, c :: rest)

def inRange (x : Option Finite64) : Reader Json :=
  match x with
  | some x => pure (float x)
  | none => stop .numberTooLarge

/-- From the `e` on. -/
def exponent (negative : Bool) (s : Scaled) : Reader Json := do
  modify (·.drop 1)
  let down ← do
    match ← get with
    | '-' :: rest => set rest; pure true
    | '+' :: rest => set rest; pure false
    | _ => pure false
  match ← get with
  | [] => stop .endInValue
  | c :: rest =>
    if !c.isDigit then stopBehind .badNumber
    else
      match power 0 (c :: rest) with
      | (some n, rest) =>
        set rest
        let shift : Int := if down then -n else n
        inRange (Scaled.toFloat negative ⟨s.significand, s.power + shift⟩)
      | (none, rest) =>
        set rest
        if s.significand ≠ 0 ∧ !down then stop .numberTooLarge
        else
          let _ ← digits
          inRange (some { Finite64.zero with negative })

/-- From the point on. -/
def fraction (negative : Bool) (s : Scaled) : Reader Json := do
  modify (·.drop 1)
  let places ← digits
  match places, ← get with
  | [], [] => stop .endInValue
  | [], _ => stopBehind .badNumber
  | _, c :: _ =>
    if c = 'e' ∨ c = 'E' then exponent negative (s.withPlaces places)
    else inRange ((s.withPlaces places).toFloat negative)
  | _, [] => inRange ((s.withPlaces places).toFloat negative)

def number (negative : Bool) : Reader Json := do
  match ← get with
  | [] => stop .endInValue
  | c :: rest =>
    if !c.isDigit then stopBehind .badNumber
    else if c = '0' ∧ rest.head?.any Char.isDigit then
      set rest
      stopBehind .badNumber
    else
      let s := Scaled.ofWhole (← digits)
      match ← get with
      | '.' :: _ => fraction negative s
      | 'e' :: _ | 'E' :: _ => exponent negative s
      | _ =>
        match integer negative s with
        | some number => pure number
        | none => stop .numberTooLarge

def hexValue? (c : Char) : Option Nat :=
  let n := c.toNat
  if c.isDigit then some (n - 48)
  else if 97 ≤ n ∧ n ≤ 102 then some (n - 87)
  else if 65 ≤ n ∧ n ≤ 70 then some (n - 55)
  else none

/-- Four hexadecimal digits. -/
def hexCode : Reader Nat := do
  let rest ← get
  if byteCount (rest.take 4) < 4 then
    set ([] : List Char)
    stop .endInString
  else
    match (rest.take 4).mapM hexValue? with
    | some ds =>
      set (rest.drop 4)
      return ds.foldl (fun n d => 16 * n + d) 0
    | none => fun rest => .error ⟨.badEscape, rest, 4⟩

/-- The next character has to be `c`, as part of a surrogate pair. -/
def pairMark (c : Char) : Reader Unit := do
  match ← get with
  | [] => stop .endInString
  | d :: rest => if d = c then set rest else stopBehind .halfPair

/-- What a backslash stands for together with what follows it. -/
def escape : Reader Char := do
  match ← get with
  | [] => stop .endInString
  | 'u' :: rest =>
    set rest
    let n ← hexCode
    if 0xDC00 ≤ n ∧ n ≤ 0xDFFF then stop .loneSurrogate
    else if n < 0xD800 ∨ 0xDBFF < n then return Char.ofNat n
    else
      pairMark '\\'
      pairMark 'u'
      let low ← hexCode
      if low < 0xDC00 ∨ 0xDFFF < low then stop .loneSurrogate
      else return Char.ofNat (0x10000 + (n - 0xD800) * 0x400 + (low - 0xDC00))
  | c :: rest =>
    let plain (d : Char) : Reader Char := do set rest; return d
    if c = '"' ∨ c = '\\' ∨ c = '/' then plain c
    else if c = 'b' then plain (Char.ofNat 8)
    else if c = 'f' then plain (Char.ofNat 12)
    else if c = 'n' then plain '\n'
    else if c = 'r' then plain '\r'
    else if c = 't' then plain '\t'
    else stopBehind .badEscape

/-- The characters up to the closing quote, put in front of which `done` comes reversed. -/
def characters : Nat → List Char → Reader String
  | 0, _ => stop .endInString
  | fuel + 1, done => do
    match ← get with
    | [] => stop .endInString
    | c :: rest =>
      if c = '"' then
        set rest
        return String.ofList done.reverse
      else if c = '\\' then
        set rest
        characters fuel ((← escape) :: done)
      else if c.toNat < 0x20 then stopBehind .controlCharacter
      else
        set rest
        characters fuel (c :: done)

/-- The items up to the closing bracket; `item` reads one. -/
def items (item : Reader Json) : Nat → List Json → Reader (List Json)
  | 0, _ => stop .endInList
  | fuel + 1, done => do
    skipBlanks
    match ← get with
    | [] => stop .endInList
    | c :: rest =>
      if c = ']' then
        set rest
        return done.reverse
      else if done.isEmpty then items item fuel [← item]
      else if c = ',' then
        set rest
        skipBlanks
        match ← get with
        | [] => stop .endInValue
        | ']' :: _ => stopBehind .trailingComma
        | _ => items item fuel ((← item) :: done)
      else stopBehind .listNotContinued

/-- A name, a colon and a value. -/
def member (size : Nat) (value : Reader Json) : Reader (String × Json) := do
  match ← get with
  | '"' :: rest =>
    set rest
    let name ← characters size []
    skipBlanks
    match ← get with
    | [] => stop .endInObject
    | ':' :: rest =>
      set rest
      return (name, ← value)
    | _ => stopBehind .noColon
  | _ => stopBehind .nameNotString

/-- The members up to the closing brace; `member` reads one. -/
def members (member : Reader (String × Json)) :
    Nat → List (String × Json) → Reader (List (String × Json))
  | 0, _ => stop .endInObject
  | fuel + 1, done => do
    skipBlanks
    match ← get with
    | [] => stop .endInObject
    | c :: rest =>
      if c = '\x7d' then
        set rest
        return done.reverse
      else if done.isEmpty then members member fuel [← member]
      else if c = ',' then
        set rest
        skipBlanks
        match ← get with
        | [] => stop .endInValue
        | '\x7d' :: _ => stopBehind .trailingComma
        | _ => members member fuel ((← member) :: done)
      else stopBehind .objectNotContinued

/-- A value, where `list` and `object` go on from an opening bracket or brace. -/
def valueWith (size : Nat) (list object : Reader Json) : Reader Json := do
  skipBlanks
  match ← get with
  | [] => stop .endInValue
  | c :: rest =>
    if c = 'n' then
      word "null".toList
      return null
    else if c = 't' then
      word "true".toList
      return bool true
    else if c = 'f' then
      word "false".toList
      return bool false
    else if c = '-' then
      set rest
      number true
    else if c.isDigit then number false
    else if c = '"' then
      set rest
      return string (← characters size [])
    else if c = '[' then list
    else if c = '\x7b' then object
    else stopBehind .noValue

/-- `size` exceeds the number of characters, and so that of items and members; `depth` more brackets
and braces may be open at a time. -/
def value (size : Nat) : (depth : Nat) → Reader Json
  | 0 => valueWith size (stopBehind .tooDeep) (stopBehind .tooDeep)
  | depth + 1 =>
    valueWith size
      (do
        modify (·.drop 1)
        return array (← items (value size depth) size []))
      (do
        modify (·.drop 1)
        return object (Fields.ofList (← members (member size (value size depth)) size [])))

def document : Reader Json := do
  let root ← value ((← get).length + 1) 127
  skipBlanks
  if (← get).isEmpty then return root else stopBehind .trailingText

end Reader

/-- The one document that is the whole of the text. -/
def parse (text : String) : Except SyntaxError Json :=
  match Reader.document.run text.toList with
  | .ok (root, _) => .ok root
  | .error stop => .error (stop.locate text.toList)

end StageGate.Json
