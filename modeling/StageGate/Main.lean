import StageGate.Command.Outcome
import Std.Time.Format
import Std.Time.Zoned

/-! The program. -/
namespace StageGate

def FileFault.ofError (e : IO.Error) : FileFault :=
  match e with
  | .noFileOrDirectory .. => .missing
  | .permissionDenied .. => .denied
  | .alreadyExists .. => .occupied
  | .inappropriateType _ 20 _ => .notDirectory
  | .inappropriateType _ 21 _ => .isDirectory
  | e => .other (toString e)

def FileFault.guard {α : Type} (x : IO α) : IO (Except FileFault α) :=
  return (← x.toBaseIO).mapError FileFault.ofError

/-- The disk of the machine. -/
def machineDisk : Disk IO where
  read name := do
    match ← FileFault.guard (IO.FS.readBinFile name) with
    | .error fault => return .error fault
    | .ok bytes =>
      match String.fromUTF8? bytes with
      | some text => return .ok text
      | none => return .error .notText
  write name text := FileFault.guard (IO.FS.writeFile name text)
  makeDirectory name := FileFault.guard (IO.FS.createDirAll name)

/-- The variables of the environment, in the form in which the machine shows them. -/
def environment : IO (List (String × String)) := do
  match ← machineDisk.read "/proc/self/environ" with
  | .error _ => return []
  | .ok text =>
    return (Text.split '\x00' text).filterMap fun entry =>
      match Command.cutAtEquals entry.toList with
      | (name, some value) => some (String.ofList name, String.ofList value)
      | (_, none) => none

/-- The places for a file of variables: the working directory and those above it. -/
def dotenvPlaces : IO (List String) := do
  let depth := (FileName.pieces (← IO.currentDir).toString).length
  return (List.range (depth + 1)).map fun n => String.join (List.replicate n "../") ++ ".env"

def stamp : IO Stamp := do
  let now ← Std.Time.PlainDateTime.now
  return ⟨now.format "uuuuMMdd-HHmmss", "[" ++ now.format "uuuu-MM-dd HH:mm:ss.SSS" ++ "] "⟩

end StageGate

open StageGate in
def main (args : List String) : IO UInt32 := do
  let surroundings : Surroundings IO := ⟨machineDisk, ← environment, ← stamp⟩
  let outcome ← Command.outcome surroundings (← dotenvPlaces) args
  IO.print outcome.stdout
  IO.eprint outcome.stderr
  return UInt32.ofNat outcome.exitCode
