import ConfigVars.Table

/-!
# Files

A file tree holds files and directories under their paths (`FileTree`).  `FileTree.openFile`
follows a path from the directory in which the program runs, and tells why the path leads to no
file.
-/

namespace ConfigVars

/-- What stands under a path. -/
inductive Entry where
  | file (bytes : List UInt8)
  | directory
  deriving DecidableEq, Repr

/-- Files and directories under their paths, which are lists of names.  A path from the root starts
with the name of the root, and every other one at the directory in which the program runs. -/
structure FileTree where
  entries : List (List String × Entry) := []
  deriving Repr

/-- Why a file cannot be opened. -/
inductive OpenFault where
  | missing
  | isDirectory
  | notDirectory
  | nameTooLong
  deriving DecidableEq, Repr

/-- The words for a fault. -/
def OpenFault.message : OpenFault → String
  | .missing => "No such file or directory"
  | .isDirectory => "Is a directory"
  | .notDirectory => "Not a directory"
  | .nameTooLong => "File name too long"

namespace FileTree

/-- The parts of a path between its slashes. -/
def split (path : String) : List String :=
  (path.toList.splitOn '/').map String.ofList

/-- The longest path, and the longest name in one, in bytes. -/
def maxPath : Nat := 4095

def maxName : Nat := 255

/-- The name of the root. -/
def rootName : String := "/"

/-- Whether a list of names is that of a directory which is always there. -/
def isTop (names : List String) : Bool := names.isEmpty || names = [rootName]

/-- What a list of names leads to. -/
def find? (t : FileTree) (names : List String) : Option Entry :=
  match t.entries.lookup names with
  | some entry => some entry
  | none =>
    if isTop names || t.entries.any fun (other, _) => names.isPrefixOf other then
      some .directory
    else none

/-- Whether a part of a path stays in a directory or goes up. -/
def isIdle (part : String) : Bool := part = "" || part = "." || part = ".."

/-- Follows a path from a directory, part by part.  Of the directory above the first, the tree knows
only that it is there. -/
def follow (t : FileTree) (names : List String) : List String → Except OpenFault Entry
  | [] =>
    match t.find? names with
    | some entry => .ok entry
    | none => .error .missing
  | part :: rest =>
    match t.find? names with
    | none => .error .missing
    | some (.file _) => .error .notDirectory
    | some .directory =>
      if part = "" || part = "." then t.follow names rest
      else if part = ".." then
        if names = [rootName] then t.follow names rest
        else if names.isEmpty then if rest.all isIdle then .ok .directory else .error .missing
        else t.follow names.dropLast rest
      else if maxName < part.utf8ByteSize then .error .nameTooLong
      else t.follow (names ++ [part]) rest

/-- The directory at which a path starts. -/
def startOf (path : String) : List String := if path.toList.head? = some '/' then [rootName] else []

/-- The names on a path without idle parts. -/
def namesOf (path : String) : List String :=
  startOf path ++ (split path).filter fun part => !isIdle part

/-- The bytes of the file that a path leads to. -/
def openFile (t : FileTree) (path : String) : Except OpenFault (List UInt8) :=
  if path.isEmpty then .error .missing
  else if maxPath < path.utf8ByteSize then .error .nameTooLong
  else
    match t.follow (startOf path) (split path) with
    | .ok (.file bytes) => .ok bytes
    | .ok .directory => .error .isDirectory
    | .error fault => .error fault

/-- Whether a path leads to something. -/
def leads (t : FileTree) (path : String) : Bool :=
  match t.openFile path with
  | .ok _ | .error .isDirectory => true
  | .error _ => false

/-- A path without empty and idle parts. -/
def normalised (path : String) : String :=
  let parts := (split path).filter fun p => p ≠ "" && p ≠ "."
  let root :=
    match path.toList with
    | '/' :: '/' :: '/' :: _ => "/"
    | '/' :: '/' :: _ => "//"
    | '/' :: _ => "/"
    | _ => ""
  let text := root ++ "/".intercalate parts
  if text.isEmpty then "." else text

end FileTree

end ConfigVars
