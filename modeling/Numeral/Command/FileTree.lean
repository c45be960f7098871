import Numeral.Command.Path
import Numeral.Text.Quoted

/-!
# File trees

Files and directories, each at a place that is given by the names from the top, and a working
directory from which relative paths start. The top is always a directory.
-/

namespace Numeral

/-- What can stand at a place of a file tree. -/
inductive FileNode where
  | file (bytes : List UInt8)
  | directory
  deriving DecidableEq, Repr

/-- The files and directories below the top, and the working directory. -/
structure FileTree where
  nodes : List (List String × FileNode)
  home : List String
  deriving DecidableEq, Repr

/-- Why a file operation fails. -/
inductive FileCause where
  | notFound
  | occupied
  | notDirectory
  | isDirectory
  | nameTooLong
  deriving DecidableEq, Repr

namespace FileCause

/-- The number of the cause. -/
def number : FileCause → Nat
  | notFound => 2
  | occupied => 17
  | notDirectory => 20
  | isDirectory => 21
  | nameTooLong => 36

/-- The cause in words. -/
def text : FileCause → String
  | notFound => "No such file or directory"
  | occupied => "File exists"
  | notDirectory => "Not a directory"
  | isDirectory => "Is a directory"
  | nameTooLong => "File name too long"

end FileCause

/-- A file operation that failed: it was refused at the path that it was asked for, or that path
holds a zero byte. -/
inductive FileError where
  | refused (cause : FileCause) (path : Path)
  | zeroByte
  deriving DecidableEq, Repr

/-- The sentence that reports a failed file operation. -/
def FileError.message : FileError → String
  | refused cause path =>
    "[Errno " ++ toString cause.number ++ "] " ++ cause.text ++ ": " ++ quote path.toString
  | zeroByte => "embedded null byte"

namespace FileTree

/-- The most bytes that a name may have. -/
def nameLimit : Nat := 255

/-- The most bytes that a path may have. -/
def pathLimit : Nat := 4095

/-- What stands at a place. -/
def node? (t : FileTree) (place : List String) : Option FileNode :=
  if place = [] then some .directory else t.nodes.lookup place

/-- The tree with `node` at a place. -/
def set (t : FileTree) (place : List String) (node : FileNode) : FileTree :=
  { t with nodes := (place, node) :: t.nodes.filter (·.1 ≠ place) }

/-- The place to which `names` lead from the directory at `place`. All but the last name must lead
to directories; at the last one there may be nothing. -/
def walk (t : FileTree) (place : List String) : List String → Except FileCause (List String)
  | [] => .ok place
  | name :: rest =>
    if name = ".." then t.walk place.dropLast rest
    else if nameLimit < name.utf8ByteSize then .error .nameTooLong
    else if rest = [] then .ok (place ++ [name])
    else
      match t.node? (place ++ [name]) with
      | some .directory => t.walk (place ++ [name]) rest
      | some (.file _) => .error .notDirectory
      | none => .error .notFound

/-- The place to which a path leads. -/
def locate (t : FileTree) (p : Path) : Except FileError (List String) :=
  if p.hasZeroByte then .error .zeroByte
  else if pathLimit < p.toString.utf8ByteSize then .error (.refused .nameTooLong p)
  else (t.walk (if p.isAbsolute then [] else t.home) p.names).mapError (.refused · p)

/-- What a path leads to. -/
def find? (t : FileTree) (p : Path) : Option FileNode :=
  match t.locate p with
  | .ok place => t.node? place
  | .error _ => none

/-- The bytes of a file. -/
def read (t : FileTree) (p : Path) : Except FileError (List UInt8) := do
  match t.node? (← t.locate p) with
  | some (.file bytes) => .ok bytes
  | some .directory => .error (.refused .isDirectory p)
  | none => .error (.refused .notFound p)

/-- An operation that changes a file tree. One that fails may have changed it too. -/
abbrev Action (ε α : Type) := EStateM ε FileTree α

/-- Makes a file, or gives an old one new bytes. -/
def write (p : Path) (bytes : List UInt8) : Action FileError Unit := fun t =>
  match t.locate p with
  | .error e => .error e t
  | .ok place =>
    match t.node? place with
    | some .directory => .error (.refused .isDirectory p) t
    | _ => .ok () (t.set place (.file bytes))

/-- The tree with a new directory. -/
def makeDirectory (t : FileTree) (p : Path) : Except FileError FileTree := do
  let place ← t.locate p
  match t.node? place with
  | some _ => .error (.refused .occupied p)
  | none => .ok (t.set place .directory)

/-- Makes a directory, unless it is there already. -/
def ensureDirectory (p : Path) : Action FileError Unit := fun t =>
  match t.makeDirectory p with
  | .ok t' => .ok () t'
  | .error e => if t.find? p = some .directory then .ok () t else .error e t

/-- Ensures the directory at the end of a path, whose names are given from last to first, and
before it those on the way, if something on the way is not found. -/
def ensureNames (root : String) : List String → Action FileError Unit
  | [] => ensureDirectory ⟨root, []⟩
  | name :: outer => fun t =>
    let p : Path := ⟨root, (name :: outer).reverse⟩
    match t.makeDirectory p with
    | .error (.refused .notFound _) => (do ensureNames root outer; ensureDirectory p : Action _ _) t
    | _ => ensureDirectory p t

/-- Ensures the directory at the end of a path and those on the way. -/
def ensureDirectories (p : Path) : Action FileError Unit :=
  ensureNames p.root p.names.reverse

/-- Makes a file and the directories on its path. -/
def place (p : Path) (bytes : List UInt8) : Action FileError Unit := do
  ensureDirectories p.parent
  write p bytes

/-- The tree with nothing but the working directory. -/
def empty (home : List String) : FileTree where
  nodes := (List.range home.length).map fun n => (home.take (n + 1), .directory)
  home := home

end FileTree

end Numeral
