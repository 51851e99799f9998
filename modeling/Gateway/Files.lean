/-
This file says why a file cannot be read, and defines trees of files in memory, where a path is
looked up as a system does it: name by name, each in the directory that the names before it lead
to, so the first name that leads nowhere decides the fault.
-/

namespace Gateway

/-- Why a file cannot be read. -/
inductive FileFault
  | missing
  | denied
  /-- A name stands behind something that is no directory. -/
  | notDirectory
  /-- The path leads to a directory. -/
  | isDirectory
  | nameTooLong
  | other (text : String)
  deriving DecidableEq, Repr

namespace FileFault

/-- The fault of a number that systems give to it. -/
def ofNumber? : Nat → Option FileFault
  | 2 => some .missing
  | 13 => some .denied
  | 20 => some .notDirectory
  | 21 => some .isDirectory
  | 36 => some .nameTooLong
  | _ => none

/-- The fault in words, with its number. -/
def message : FileFault → String
  | .missing => "No such file or directory (os error 2)"
  | .denied => "Permission denied (os error 13)"
  | .notDirectory => "Not a directory (os error 20)"
  | .isDirectory => "Is a directory (os error 21)"
  | .nameTooLong => "File name too long (os error 36)"
  | .other text => text

end FileFault

/-- A file with its octets, or a directory with the files and directories that have names in it. -/
inductive FileTree
  | file (octets : List UInt8)
  | directory (entries : List (String × FileTree))

namespace FileTree

/-- The octets that a name may have. -/
def longestName : Nat := 255

/-- The octets that a path may have. -/
def longestPath : Nat := 4095

/-- A place in a tree of files: what stands there, and the directories around it, the innermost
first. -/
structure Place where
  tree : FileTree
  around : List FileTree := []

namespace Place

/-- Where a name leads to. An empty name and a single dot stay in a directory, two dots lead to the
one around it, and the outermost one is around itself. -/
def enter (place : Place) (name : String) : Except FileFault Place :=
  match place.tree with
  | .file _ => .error .notDirectory
  | .directory entries =>
    if name = "" ∨ name = "." then .ok place
    else if name = ".." then
      match place.around with
      | [] => .ok place
      | outer :: outside => .ok ⟨outer, outside⟩
    else if FileTree.longestName < name.utf8ByteSize then .error .nameTooLong
    else
      match entries.lookup name with
      | none => .error .missing
      | some next => .ok ⟨next, place.tree :: place.around⟩

/-- Where names lead to, one after the other. -/
def follow (place : Place) (names : List String) : Except FileFault Place :=
  names.foldlM enter place

end Place

/-- The names that a path leads through from the root. A path with a slash at its start begins
there; any other begins where the names of the last argument lead to. -/
def names (path : String) (working : List String) : List String :=
  if path.startsWith "/" then path.splitOn "/" else working ++ path.splitOn "/"

/-- The octets of the file at a path. -/
def read (root : FileTree) (path : String) (working : List String) :
    Except FileFault (List UInt8) := do
  if path.isEmpty then throw .missing
  else if longestPath < path.utf8ByteSize then throw .nameTooLong
  else
    let place ← Place.follow ⟨root, []⟩ (names path working)
    match place.tree with
    | .file octets => return octets
    | .directory _ => throw .isDirectory

end FileTree

end Gateway
