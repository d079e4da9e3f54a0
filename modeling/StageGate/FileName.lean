import StageGate.Text.Blank

/-! Names of files: pieces between slashes. -/
namespace StageGate.FileName

/-- The pieces that lead somewhere; empty ones and single dots do not. -/
def pieces (name : String) : List String :=
  (Text.split '/' name).filter fun piece => piece != "" && piece != "."

def isAbsolute (name : String) : Bool :=
  name.toList.head? = some '/'

/-- The last piece, without what is before it. -/
def base? (name : String) : Option String :=
  (pieces name).getLast?.filter (· != "..")

/-- Splits at the last dot, unless that is the first character or there is none. -/
def splitExtension (base : String) : String × Option String :=
  let back := base.toList.reverse
  let extension := back.takeWhile (· != '.')
  match back.drop (extension.length + 1) with
  | [] => (base, none)
  | stem => (String.ofList stem.reverse, some (String.ofList extension.reverse))

def stem? (name : String) : Option String :=
  (base? name).map fun base => (splitExtension base).1

def extension? (name : String) : Option String :=
  (base? name).bind fun base => (splitExtension base).2

/-- The name as seen from a directory; an absolute one stays as it is. -/
def join (directory name : String) : String :=
  if isAbsolute name || directory = "" then name
  else if directory.toList.getLast? = some '/' then directory ++ name
  else directory ++ "/" ++ name

end StageGate.FileName
