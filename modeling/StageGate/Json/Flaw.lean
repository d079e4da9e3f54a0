/-! What can be wrong with the text of a document, and where. -/
namespace StageGate.Json

inductive Flaw
  | endInValue
  | endInString
  | endInList
  | endInObject
  | badWord
  | noValue
  | noColon
  | listNotContinued
  | objectNotContinued
  | nameNotString
  | trailingComma
  | trailingText
  | badNumber
  | numberTooLarge
  | badEscape
  | controlCharacter
  | loneSurrogate
  | halfPair
  | tooDeep
deriving DecidableEq

def Flaw.message : Flaw → String
  | endInValue => "EOF while parsing a value"
  | endInString => "EOF while parsing a string"
  | endInList => "EOF while parsing a list"
  | endInObject => "EOF while parsing an object"
  | badWord => "expected ident"
  | noValue => "expected value"
  | noColon => "expected `:`"
  | listNotContinued => "expected `,` or `]`"
  | objectNotContinued => "expected `,` or `\x7d`"
  | nameNotString => "key must be a string"
  | trailingComma => "trailing comma"
  | trailingText => "trailing characters"
  | badNumber => "invalid number"
  | numberTooLarge => "number out of range"
  | badEscape => "invalid escape"
  | controlCharacter => "control character (\\u0000-\\u001F) found while parsing a string"
  | loneSurrogate => "lone leading surrogate in hex escape"
  | halfPair => "unexpected end of hex escape"
  | tooDeep => "recursion limit exceeded"

/-- A flaw with its line, from one, and the bytes of that line up to and with the offending one. -/
structure SyntaxError where
  flaw : Flaw
  line : Nat
  column : Nat
deriving DecidableEq

def SyntaxError.message (e : SyntaxError) : String :=
  e.flaw.message ++ " at line " ++ toString e.line ++ " column " ++ toString e.column

/-- The line and column reached after `bytes` bytes of the text. -/
def place : List Char → (bytes line column : Nat) → Nat × Nat
  | [], _, line, column => (line, column)
  | c :: cs, bytes, line, column =>
    if bytes = 0 then (line, column)
    else if c = '\n' then place cs (bytes - 1) (line + 1) 0
    else if c.utf8Size ≤ bytes then place cs (bytes - c.utf8Size) line (column + c.utf8Size)
    else (line, column + bytes)

def byteCount (cs : List Char) : Nat :=
  cs.foldl (fun n c => n + c.utf8Size) 0

/-- A flaw found with `rest` still unread, `ahead` bytes further on. -/
structure Stop where
  flaw : Flaw
  rest : List Char
  ahead : Nat

def Stop.locate (text : List Char) (s : Stop) : SyntaxError :=
  let (line, column) := place text (byteCount text - byteCount s.rest + s.ahead) 1 0
  ⟨s.flaw, line, column⟩

end StageGate.Json
