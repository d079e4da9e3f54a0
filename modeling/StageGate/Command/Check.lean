import StageGate.Command.Answer

/-! Checking rule files. -/
namespace StageGate.Check

/-- The lines on one rule file, and whether it passes. -/
def verdict (name text : String) : String × Bool :=
  match Rule.ofFile name text with
  | .error e => ("✗ " ++ name ++ ": " ++ e.message ++ "\n", false)
  | .ok rule =>
    match rule.dangling with
    | [] => ("✓ " ++ name ++ " (" ++ toString rule.size ++ " steps)\n", true)
    | dangling =>
      let lines := dangling.map fun (step, missing) =>
        "    step '" ++ step ++ "' references undefined step '" ++ missing ++ "'\n"
      ("✗ " ++ name ++ "\n" ++ String.join lines, false)

variable {m : Type → Type} [Monad m]

/-- The verdicts on the files, up to the first that cannot be read. -/
def verdicts (disk : Disk m) : List String → m (List (String × Bool) × Option Failure)
  | [] => return ([], none)
  | name :: names => do
    match ← disk.readText name with
    | .error failure => return ([], some failure)
    | .ok text =>
      let (rest, failure) ← verdicts disk names
      return (verdict name text :: rest, failure)

def run (disk : Disk m) (files : List String) : m Answer := do
  let (verdicts, failure) ← verdicts disk files
  let bad := (verdicts.filter (!·.2)).length
  let failure := failure <|>
    if bad = 0 then none
    else some (Failure.ofMessage
      (toString bad ++ " of " ++ toString files.length ++ " rule files failed validation"))
  return ⟨String.join (verdicts.map Prod.fst), failure⟩

end StageGate.Check
