import StageGate.Disk

/-! A disk in memory. Names are looked up piece by piece, from the root or from a working
directory. -/
namespace StageGate

/-- Files and directories by their places: the pieces of the way from the root. -/
structure FileTree where
  home : List String
  files : List (List String × String)
  directories : List (List String)

namespace FileTree

/-- Nothing, a file, or a directory. -/
inductive Entry
  | missing
  | file (text : String)
  | directory

def entry (tree : FileTree) (place : List String) : Entry :=
  match tree.files.lookup place with
  | some text => .file text
  | none => if place.isEmpty || place ∈ tree.directories then .directory else .missing

/-- Pieces of names have this many bytes at most. -/
def longestPiece : Nat := 255

/-- Whole names have this many bytes at most. -/
def longestName : Nat := 4095

/-- Where a piece leads from a place, which has to be a directory. Two dots lead up, but not above
the root. -/
def enter (tree : FileTree) (place : List String) (piece : String) :
    Except FileFault (List String) :=
  match tree.entry place with
  | .missing => .error .missing
  | .file _ => .error .notDirectory
  | .directory =>
    if piece = "" || piece = "." then .ok place
    else if piece = ".." then .ok place.dropLast
    else if longestPiece < piece.utf8ByteSize then .error .nameTooLong
    else .ok (place ++ [piece])

/-- The place where a name starts, and its pieces. -/
def start (tree : FileTree) (name : String) : Except FileFault (List String × List String) :=
  if '\x00' ∈ name.toList then .error .nameWithNull
  else if name = "" then .error .missing
  else if longestName < name.utf8ByteSize then .error .nameTooLong
  else .ok (if FileName.isAbsolute name then [] else tree.home, Text.split '/' name)

def read (tree : FileTree) (name : String) : Except FileFault String := do
  let (place, pieces) ← tree.start name
  match tree.entry (← pieces.foldlM tree.enter place) with
  | .missing => throw .missing
  | .directory => throw .isDirectory
  | .file text => return text

/-- What is written here is gone. -/
def sink : List String :=
  ["dev", "null"]

/-- The file at a place has this text from now on. -/
def put (tree : FileTree) (place : List String) (text : String) : FileTree :=
  if place = sink then tree
  else { tree with files := (place, text) :: tree.files.filter (·.1 != place) }

/-- Writes a file in a directory that is there. A name with a slash at its end is that of a
directory, whether or not there is one. -/
def write (tree : FileTree) (name text : String) : Except FileFault FileTree := do
  let (place, pieces) ← tree.start name
  match pieces.reverse.dropWhile (· = "") with
  | [] => throw .isDirectory
  | last :: above =>
    let directory ← (above.reverse ++ [""]).foldlM tree.enter place
    if pieces.getLast? = some "" then throw .isDirectory
    let place ← tree.enter directory last
    match tree.entry place with
    | .directory => throw .isDirectory
    | _ => return tree.put place text

/-- Makes the directories that are not there, one below the other. -/
def makeDirectories (tree : FileTree) (place : List String) :
    List String → Except FileFault FileTree
  | [] => .ok tree
  | piece :: rest => do
    let place ← tree.enter place piece
    match tree.entry place with
    | .file _ => throw (if rest.isEmpty then .occupied else .notDirectory)
    | .directory => tree.makeDirectories place rest
    | .missing =>
      let tree := { tree with directories := place :: tree.directories }
      tree.makeDirectories place rest

/-- The directories below the root that every machine has. -/
def rootDirectories : List String :=
  ["bin", "boot", "dev", "etc", "home", "lib", "media", "mnt", "opt", "proc", "root", "run", "sbin",
    "srv", "sys", "tmp", "usr", "var"]

/-- An empty working directory on a machine without anything else. -/
def bare : FileTree where
  home := ["tmp", "work"]
  files := [(sink, "")]
  directories := ["tmp", "work"] :: rootDirectories.map ([·])

/-- A tree of files, with the directories that they are in. -/
def ofFiles (files : List (String × String)) : FileTree :=
  files.foldl (fun tree (name, text) =>
    let pieces := FileName.pieces name
    match tree.makeDirectories tree.home pieces.dropLast with
    | .ok tree => tree.put (tree.home ++ pieces) text
    | .error _ => tree) bare

/-- The files below the working directory with their names, in no particular order. -/
def toFiles (tree : FileTree) : List (String × String) :=
  tree.files.filterMap fun (place, text) =>
    if tree.home.isPrefixOf place then
      some ("/".intercalate (place.drop tree.home.length), text)
    else none

def disk : Disk (StateM FileTree) where
  read name := do
    return (← get).read name
  write name text := do
    match (← get).write name text with
    | .ok tree => set tree; return .ok ()
    | .error fault => return .error fault
  makeDirectory name := do
    let tree ← get
    match tree.start name >>= fun (place, pieces) => tree.makeDirectories place pieces with
    | .ok tree => set tree; return .ok ()
    | .error fault => return .error fault

end FileTree
end StageGate
