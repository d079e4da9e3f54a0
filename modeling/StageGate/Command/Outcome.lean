import StageGate.Command.Arguments
import StageGate.Command.Run
import StageGate.Settings.Dotenv

/-! What the program makes of its arguments. -/
namespace StageGate

structure Outcome where
  exitCode : Nat
  stdout : String
  stderr : String

namespace Command

def helpText : String :=
  "Stateflow rule-driven workflow engine\n\n" ++
  "Usage: stateflow [OPTIONS] <COMMAND>\n\n" ++
  "Commands:\n" ++
  "  run    Advance every subject in a data file through the workflow\n" ++
  "  check  Parse rule documents and report undefined step references\n" ++
  "  eval   Run one rule against one subject and print the result as JSON\n" ++
  "  help   Print this message\n\n" ++
  "Options:\n" ++
  "  -v, --verbose  Enable debug logging\n" ++
  "  -h, --help     Print help\n" ++
  "  -V, --version  Print version\n"

def versionLine : String :=
  "stateflow 0.1.0\n"

variable {m : Type → Type} [Monad m]

/-- The environment with the variables of the first file that can be read. -/
def loadEnvironment (disk : Disk m) (environment : List (String × String)) :
    List String → m (List (String × String))
  | [] => return environment
  | name :: names => do
    match ← disk.read name with
    | .ok text => return Dotenv.load environment text
    | .error _ => loadEnvironment disk environment names

def Answer.toOutcome (answer : Answer) : Outcome :=
  match answer.failure with
  | none => ⟨0, answer.output, ""⟩
  | some failure => ⟨1, answer.output, failure.render⟩

/-- Carries out the command that the arguments ask for; `dotenvs` are the places for a file of
variables, nearest first. -/
def outcome (s : Surroundings m) (dotenvs args : List String) : m Outcome := do
  match ofArguments args with
  | .error .wrong => return ⟨2, "", helpText⟩
  | .error .help => return ⟨0, helpText, ""⟩
  | .error .version => return ⟨0, versionLine, ""⟩
  | .ok command =>
    let environment ← loadEnvironment s.disk s.environment dotenvs
    return Answer.toOutcome (← command.perform { s with environment })

end Command
end StageGate
