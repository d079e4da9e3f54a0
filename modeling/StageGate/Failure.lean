import StageGate.Error

/-! Failures of commands: a message and its causes, outermost first. -/
namespace StageGate

structure Failure where
  message : String
  causes : List String

namespace Failure

def ofMessage (message : String) : Failure :=
  ⟨message, []⟩

def ofError (e : Error) : Failure :=
  ⟨e.message, e.causes⟩

/-- A fault of a file on its own, without a word on who ran into it. -/
def ofFault (fault : FileFault) : Failure :=
  ofMessage fault.message

/-- What was to be done when it happened. -/
def during (context : String) (failure : Failure) : Failure :=
  ⟨context, failure.message :: failure.causes⟩

/-- The message and its causes in one line. -/
def chain (failure : Failure) : String :=
  ": ".intercalate (failure.message :: failure.causes)

/-- Puts `margin` before every line but the first. -/
def indented (margin text : String) : String :=
  String.ofList (text.toList.flatMap fun c => if c = '\n' then c :: margin.toList else [c])

/-- A single cause is indented, several are numbered from zero. -/
def causeLines : List String → List String
  | [] => []
  | [cause] => ["    " ++ indented "    " cause]
  | causes => causes.zipIdx.map fun (cause, n) =>
    let number := toString n
    String.ofList (List.replicate (5 - number.length) ' ') ++ number ++ ": " ++
      indented "       " cause

def render (failure : Failure) : String :=
  let causes :=
    if failure.causes.isEmpty then ""
    else "\n\nCaused by:\n" ++ "\n".intercalate (causeLines failure.causes)
  "Error: " ++ failure.message ++ causes ++ "\n"

end Failure
end StageGate
