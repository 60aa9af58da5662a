import VmDeploy.Text.Utf8
import VmDeploy.Tunnel.Interface

/-!
# A tree of files

Directories and files below one root, and a directory in which relative paths
start. A path is walked name by name; what is wrong with it is found where the
walk ends. `FileTree.system` has the directories that every system has, and
one file that is always empty.
-/

set_option autoImplicit false

namespace VmDeploy.Simulation

/-- A place in a tree: the names that lead to it from the root, the last name first. -/
abbrev Place := List String

/-- Directories and files. -/
structure FileTree where
  directories : List Place
  files : List (Place × List UInt8)
  /-- Where relative paths start. -/
  start : Place

/-- Why a file cannot be read. -/
inductive FileFault where
  | missing
  | notDirectory
  | isDirectory
  | nameTooLong
  | nulInName
  | notText
  deriving DecidableEq, Repr

namespace FileFault

/-- The wording of a fault. -/
def message : FileFault → String
  | .missing => "No such file or directory (os error 2)"
  | .notDirectory => "Not a directory (os error 20)"
  | .isDirectory => "Is a directory (os error 21)"
  | .nameTooLong => "File name too long (os error 36)"
  | .nulInName => "file name contained an unexpected NUL byte"
  | .notText => "stream did not contain valid UTF-8"

end FileFault

namespace FileTree

/-- A place from the names that lead to it, the first name first. -/
def place (names : List String) : Place := names.reverse

/-- The directories that every system has. -/
def systemDirectories : List (List String) :=
  [[], ["bin"], ["boot"], ["dev"], ["dev", "fd"], ["dev", "pts"], ["dev", "shm"], ["etc"],
    ["etc", "ssl"], ["home"], ["lib"], ["media"], ["mnt"], ["opt"], ["proc"], ["root"], ["run"],
    ["sbin"], ["srv"], ["sys"], ["tmp"], ["usr"], ["usr", "bin"], ["usr", "lib"], ["usr", "local"],
    ["usr", "local", "bin"], ["usr", "local", "lib"], ["usr", "sbin"], ["usr", "share"],
    ["usr", "src"], ["var"], ["var", "cache"], ["var", "lib"], ["var", "log"], ["var", "tmp"]]

/-- The files that every system has. -/
def system : FileTree where
  directories := systemDirectories.map place
  files := [(place ["dev", "null"], [])]
  start := place ["srv"]

/-- Adds a file to the directory in which relative paths start. -/
def put (name : String) (content : List UInt8) (t : FileTree) : FileTree :=
  { t with files := (name :: t.start, content) :: t.files }

/-- The content of the file at a place. -/
def file? (t : FileTree) (place : Place) : Option (List UInt8) := t.files.lookup place

/-- So many bytes a name may have. -/
def longestName : Nat := 255

/-- So many bytes a path may have. -/
def longestPath : Nat := 4095

/-- Walks on along names. An empty name and a dot stay, two dots go up, and nothing is above
the root. -/
def walk (t : FileTree) : (here : Place) → List String → Except FileFault Place
  | here, [] => .ok here
  | here, name :: rest =>
    if here ∉ t.directories then .error .notDirectory
    else if name = "" ∨ name = "." then t.walk here rest
    else if name = ".." then t.walk here.tail rest
    else if longestName < name.utf8ByteSize then .error .nameTooLong
    else
      let next := name :: here
      if next ∈ t.directories ∨ (t.file? next).isSome then t.walk next rest
      else .error .missing

/-- The place to which a path leads. -/
def resolve (t : FileTree) (path : String) : Except FileFault Place :=
  if path.toList.contains '\x00' then .error .nulInName
  else if path = "" then .error .missing
  else if longestPath < path.utf8ByteSize then .error .nameTooLong
  else t.walk (if path.startsWith "/" then [] else t.start) (path.splitOn "/")

/-- Reads the file to which a path leads as text. -/
def read (t : FileTree) (path : String) : Except FileFault String := do
  match t.file? (← t.resolve path) with
  | none => throw .isDirectory
  | some bytes =>
    match Text.Utf8.decode? bytes with
    | some text => return text
    | none => throw .notText

end FileTree

end VmDeploy.Simulation
