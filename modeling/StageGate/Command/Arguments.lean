import StageGate.Command
import StageGate.Text.Blank
import StageGate.Text.Number

/-! Commands out of the arguments of a program. -/
namespace StageGate.Command

/-- Why there is no command: the arguments are wrong, or ask for something else. -/
inductive Refusal
  | wrong
  | help
  | version
deriving DecidableEq

/-- An option, with a test for its values if it takes one. -/
structure Switch where
  long : String
  short : Option Char
  accepts : Option (String → Bool)
  repeats : Bool

namespace Switch

def flag (long : String) (short : Char) : Switch :=
  ⟨long, some short, none, false⟩

def text (long : String) (short : Option Char) (accepts : String → Bool) : Switch :=
  ⟨long, short, some accepts, false⟩

end Switch

/-- A part of the arguments; where they cannot be read, they are refused. -/
inductive Part
  | flag (long : String)
  | value (long text : String)
  | operand (text : String)
  | refused (why : Refusal)

def longSwitch? (switches : List Switch) (name : String) : Option Switch :=
  switches.find? (·.long == name)

def shortSwitch? (switches : List Switch) (c : Char) : Option Switch :=
  switches.find? (·.short == some c)

def isOption (arg : String) : Bool :=
  match arg.toList with
  | '-' :: _ :: _ => true
  | _ => false

/-- The value of a switch that stands in the next argument, and the arguments behind it. -/
def nextValue (switch : Switch) : List String → Part × List String
  | [] => (.refused .wrong, [])
  | arg :: args =>
    if isOption arg then (.refused .wrong, []) else (.value switch.long arg, args)

/-- Cuts a text at its first equals sign. -/
def cutAtEquals (cs : List Char) : List Char × Option (List Char) :=
  match cs.dropWhile (· != '=') with
  | [] => (cs, none)
  | _ :: value => (cs.takeWhile (· != '='), some value)

/-- An argument behind two dashes. -/
def longPart (switches : List Switch) (cs : List Char) (args : List String) :
    List Part × List String :=
  let (name, value) := cutAtEquals cs
  let name := String.ofList name
  match longSwitch? switches name, value with
  | some switch, value =>
    match switch.accepts, value with
    | none, none => ([.flag switch.long], args)
    | none, some _ => ([.refused .wrong], args)
    | some _, some value => ([.value switch.long (String.ofList value)], args)
    | some _, none => let (part, args) := nextValue switch args; ([part], args)
  | none, none => ([.refused (if name = "help" then .help else .wrong)], args)
  | none, some _ => ([.refused .wrong], args)

/-- Letters behind a single dash. A switch with a value takes all that follows it. -/
def shortParts (switches : List Switch) (args : List String) :
    List Char → List Part × List String
  | [] => ([], args)
  | c :: cs =>
    match shortSwitch? switches c with
    | none => ([.refused (if c = 'h' then .help else .wrong)], args)
    | some switch =>
      match switch.accepts, cs with
      | none, cs =>
        let (parts, args) := shortParts switches args cs
        (.flag switch.long :: parts, args)
      | some _, [] => let (part, args) := nextValue switch args; ([part], args)
      | some _, '=' :: value => ([.value switch.long (String.ofList value)], args)
      | some _, value => ([.value switch.long (String.ofList value)], args)

theorem nextValue_length (switch : Switch) (args : List String) :
    (nextValue switch args).2.length ≤ args.length := by
  cases args with
  | nil => simp [nextValue]
  | cons arg args =>
    simp only [nextValue]
    split <;> simp

theorem longPart_length (switches : List Switch) (cs : List Char) (args : List String) :
    (longPart switches cs args).2.length ≤ args.length := by
  simp only [longPart]
  split
  · split
    · simp
    · simp
    · simp
    · exact nextValue_length _ _
  · simp
  · simp

theorem shortParts_length (switches : List Switch) (args : List String) (cs : List Char) :
    (shortParts switches args cs).2.length ≤ args.length := by
  induction cs with
  | nil => simp [shortParts]
  | cons c cs ih =>
    simp only [shortParts]
    split
    · simp
    · split
      · exact ih
      · exact nextValue_length _ _
      · simp
      · simp

/-- All parts of the arguments, in order. Behind two dashes alone there are operands only. -/
def parts (switches : List Switch) : List String → List Part
  | [] => []
  | arg :: args =>
    match arg.toList with
    | ['-', '-'] => args.map .operand
    | '-' :: '-' :: cs =>
      let found := longPart switches cs args
      found.1 ++ parts switches found.2
    | '-' :: c :: cs =>
      let found := shortParts switches args (c :: cs)
      found.1 ++ parts switches found.2
    | _ => .operand arg :: parts switches args
termination_by args => args.length
decreasing_by
  · have := longPart_length switches cs args
    simp
    omega
  · have := shortParts_length switches args (c :: cs)
    simp
    omega
  · simp

/-- What was given: flags and values with the names of their switches, and operands. -/
structure Given where
  values : List (String × String)
  operands : List String

/-- Takes the parts in order, up to the first that is refused, or not accepted, or a repetition, or
one operand too many. -/
def collect (switches : List Switch) (mostOperands : Nat) :
    Given → List Part → Except Refusal Given
  | given, [] => .ok given
  | _, .refused why :: _ => .error why
  | given, .operand text :: parts =>
    if text = "" || mostOperands ≤ given.operands.length then .error .wrong
    else collect switches mostOperands { given with operands := given.operands ++ [text] } parts
  | given, .flag long :: parts =>
    if (given.values.lookup long).isSome then .error .wrong
    else collect switches mostOperands { given with values := given.values ++ [(long, "")] } parts
  | given, .value long text :: parts =>
    match longSwitch? switches long with
    | none => .error .wrong
    | some switch =>
      if !(switch.accepts.any (· text)) then .error .wrong
      else if !switch.repeats && (given.values.lookup long).isSome then .error .wrong
      else
        collect switches mostOperands { given with values := given.values ++ [(long, text)] } parts

def read (switches : List Switch) (mostOperands : Nat) (args : List String) :
    Except Refusal Given :=
  collect switches mostOperands ⟨[], []⟩ (parts switches args)

namespace Given

def value? (given : Given) (long : String) : Option String :=
  given.values.lookup long

def required (given : Given) (long : String) : Except Refusal String :=
  match given.value? long with
  | some value => .ok value
  | none => .error .wrong

/-- The pieces of all values of a switch, or nothing if it was not given. -/
def list? (given : Given) (long : String) : Option (List String) :=
  if (given.value? long).isSome then
    some ((given.values.filter (·.1 == long)).flatMap fun entry => Text.split ',' entry.2)
  else none

end Given

def isFileName (text : String) : Bool :=
  text != ""

def isSeconds (text : String) : Bool :=
  (Text.index? text.toList).any (· < 0x10000000000000000)

def policy? (text : String) : Option Policy :=
  (Policy.read text).toOption

def verbose : Switch :=
  .flag "verbose" 'v'

def runSwitches : List Switch :=
  [verbose, .text "data" (some 'd') isFileName, .text "rules" (some 'r') isFileName,
    { long := "states", short := none, accepts := some fun _ => true, repeats := true },
    .text "policy" none fun text => (policy? text).isSome, .text "output" (some 'o') isFileName,
    .text "log-dir" none isFileName, .text "timeout-secs" none isSeconds]

def readRun (args : List String) : Except Refusal Command := do
  let given ← read runSwitches 0 args
  return .run {
    data := ← given.required "data"
    rules := given.value? "rules"
    states := given.list? "states"
    policy := (given.value? "policy").bind policy?
    output := given.value? "output"
    logDir := given.value? "log-dir"
    seconds := (given.value? "timeout-secs").bind fun text => Text.index? text.toList }

def readCheck (args : List String) : Except Refusal Command := do
  let given ← read [verbose] args.length args
  if given.operands.isEmpty then throw .wrong
  return .check given.operands

def evalSwitches : List Switch :=
  [verbose, .text "subject" (some 's') fun _ => true, .text "data" (some 'd') isFileName]

def readEval (args : List String) : Except Refusal Command := do
  let given ← read evalSwitches 1 args
  match given.operands with
  | [rule] => return .eval rule (← given.required "subject") (given.value? "data")
  | _ => throw .wrong

def isCommandName (name : String) : Bool :=
  name ∈ ["run", "check", "eval", "help"]

/-- Help on the program, or on one command. -/
def helpWith : List String → Refusal
  | [] => .help
  | [name] => if isCommandName name then .help else .wrong
  | _ => .wrong

/-- The letters of an option before the command. -/
def leadLetters : (isVerbose : Bool) → List Char → Except Refusal Bool
  | isVerbose, [] => .ok isVerbose
  | isVerbose, c :: cs =>
    if c = 'h' then .error .help
    else if c = 'V' then .error .version
    else if c = 'v' && !isVerbose then leadLetters true cs
    else .error .wrong

/-- An option before the command. -/
def leadOption (isVerbose : Bool) (arg : String) : Except Refusal Bool :=
  if arg = "--help" then .error .help
  else if arg = "--version" then .error .version
  else if arg = "--verbose" then if isVerbose then .error .wrong else .ok true
  else
    match arg.toList with
    | '-' :: '-' :: _ => .error .wrong
    | _ :: letters => leadLetters isVerbose letters
    | [] => .error .wrong

/-- The command that the arguments name, behind options that hold for all of them. -/
def ofArguments (args : List String) : Except Refusal Command :=
  go false args
where
  go (isVerbose : Bool) : List String → Except Refusal Command
    | [] => .error .wrong
    | arg :: args =>
      if isOption arg then do go (← leadOption isVerbose arg) args
      else
        match arg with
        | "run" => readRun args
        | "check" => readCheck args
        | "eval" => readEval args
        | "help" => .error (helpWith args)
        | _ => .error .wrong

end StageGate.Command
