import StageGate.Disk
import StageGate.Failure
import StageGate.Journal

/-! What commands work with, and what they leave. -/
namespace StageGate

/-- What was printed, and the failure, if the command failed. -/
structure Answer where
  output : String
  failure : Option Failure

/-- The time of a run, as it stands in the name of its log file and before each line in it. -/
structure Stamp where
  fileName : String
  lineLead : String

/-- A disk, the variables of the environment, and the time. -/
structure Surroundings (m : Type → Type) where
  disk : Disk m
  environment : List (String × String)
  stamp : Stamp

def loadSettings (environment : List (String × String)) : Except Failure Settings :=
  (Settings.ofPairs environment).mapError fun e =>
    (Failure.ofError e).during "Failed to load configuration"

/-- Reads the data of a command. -/
def Disk.readData {m : Type → Type} [Monad m] (disk : Disk m) (name : String) :
    m (Except Failure Store) := do
  return (← disk.readStore name).mapError fun e =>
    (Failure.ofError e).during ("Failed to load data file " ++ name)

def Disk.readText {m : Type → Type} [Monad m] (disk : Disk m) (name : String) :
    m (Except Failure String) := do
  return (← disk.read name).mapError fun fault =>
    (Failure.ofFault fault).during ("Failed to read " ++ name)

end StageGate
