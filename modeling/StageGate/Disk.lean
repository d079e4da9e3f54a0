import StageGate.Error
import StageGate.Rule.File
import StageGate.Settings
import StageGate.Store

/-! Files as the commands see them: a disk is what it takes to read and to write. -/
namespace StageGate

/-- `makeDirectory` also makes the directories above. -/
structure Disk (m : Type → Type) where
  read : String → m (Except FileFault String)
  write : (name text : String) → m (Except FileFault Unit)
  makeDirectory : String → m (Except FileFault Unit)

namespace Disk

variable {m : Type → Type} [Monad m]

/-- The rule in a file; a file that is missing has none. -/
def readRule (disk : Disk m) (name : String) : m (Except Error (Option Rule)) := do
  match ← disk.read name with
  | .ok text => return some <$> Rule.ofFile name text
  | .error .missing => return .ok none
  | .error fault => return .error (.io fault)

/-- The rule file of a state, by settings. -/
def ruleFile (settings : Settings) (state : String) : String :=
  FileName.join settings.rulesDir (settings.ruleFileName state)

/-- What reading the rule of each state gives. -/
def readRules (disk : Disk m) (settings : Settings) (states : List String) :
    m (List (String × Except Error (Option Rule))) :=
  states.mapM fun state => do
    return (state, ← disk.readRule (ruleFile settings state))

def readStore (disk : Disk m) (name : String) : m (Except Error Store) := do
  match ← disk.read name with
  | .error fault => return .error (.io fault)
  | .ok text =>
    match Json.parse text with
    | .ok document => return Store.ofJson document
    | .error e => return .error (.json (.syntaxError e))

def writeStore (disk : Disk m) (name : String) (store : Store) : m (Except Error Unit) := do
  match ← disk.write name store.toJson.pretty with
  | .error fault => return .error (.io fault)
  | .ok () => return .ok ()

end Disk
end StageGate
