/-!
# Directories and files

Reading a file may fail for reasons that have nothing to do with its content. `ReadFailure` names
them. `FileTree` is a directory with everything below it, held in memory, and `FileTree.read` finds
a file by a path from that directory on, failing just where a lookup on a disk fails. Of the disk
around the directory only the ways up are known.
-/
namespace ByteMachine

/-- Why a file could not be read as text. -/
inductive ReadFailure where
  /-- The path leads nowhere. -/
  | missing
  /-- The path goes on behind something that is not a directory. -/
  | notDirectory
  /-- The path leads to a directory. -/
  | isDirectory
  /-- The file is not encoded in UTF-8. -/
  | notUtf8
  /-- Any other reason, in the words of the system. -/
  | system (reason : String)
  deriving DecidableEq, Repr

namespace ReadFailure

/-- The failure in words. -/
def message : ReadFailure → String
  | missing => "No such file or directory (os error 2)"
  | notDirectory => "Not a directory (os error 20)"
  | isDirectory => "Is a directory (os error 21)"
  | notUtf8 => "stream did not contain valid UTF-8"
  | system reason => reason

end ReadFailure

/-- What stands at a place in a file tree. -/
inductive FileNode where
  | file (content : ByteArray)
  | directory

/-- A place on a disk: the names on the way to it from a fixed directory, the last one first. What
lies above that directory is reached by way of `..`, and the root of the disk is named `/`. -/
abbrev Place := List String

namespace Place

/-- The place that a name leads to. From the root of the disk no way leads up. -/
def walk (place : Place) (name : String) : Place :=
  if name != ".." then name :: place
  else
    match place with
    | [] | ".." :: _ => ".." :: place
    | "/" :: _ => place
    | _ :: above => above

/-- The place where a path begins. -/
def start (path : String) : Place := if path.startsWith "/" then ["/"] else []

/-- The names on a path. Repeated separators count once, and `.` stays where it is. -/
def names (path : String) : List String :=
  ((path.toList.splitOn '/').map String.ofList).filter fun name => name != "" && name != "."

/-- The place that a path leads to when every name on its way is that of a directory. -/
def ofPath (path : String) : Place := (names path).foldl walk (start path)

/-- Whether the place is the root of the disk, or the fixed directory or one above it. -/
def isAbove (place : Place) : Bool := place == ["/"] || place.all (· == "..")

end Place

/-- What stands at some places of a disk. -/
structure FileTree where
  entries : List (Place × FileNode)

namespace FileTree

/-- The tree of an empty directory. -/
def empty : FileTree := ⟨[]⟩

/-- The tree with something put at a path. What stood there before is no longer seen. -/
def put (tree : FileTree) (path : String) (node : FileNode) : FileTree :=
  ⟨(.ofPath path, node) :: tree.entries⟩

/-- What stands at a place. Every place on the way to an entry is a directory. -/
def at? (tree : FileTree) (place : Place) : Option FileNode :=
  match tree.entries.find? (·.1 == place) with
  | some (_, node) => some node
  | none =>
    if place.isAbove || tree.entries.any fun entry => place.isSuffixOf entry.1 then
      some .directory
    else none

/-- Follows names from a place on; every place that is left has to be a directory. -/
def follow (tree : FileTree) (place : Place) : List String → Except ReadFailure FileNode
  | [] =>
    match tree.at? place with
    | some node => .ok node
    | none => .error .missing
  | name :: rest =>
    match tree.at? place with
    | some .directory => tree.follow (place.walk name) rest
    | some (.file _) => .error .notDirectory
    | none => .error .missing

/-- Whether the last step of a path asks for a directory. -/
def asksForDirectory (path : String) : Bool :=
  match (path.toList.splitOn '/').getLast? with
  | some name => name == [] || name == ['.'] || name == ['.', '.']
  | none => false

/-- The content of the file at a path. -/
def read (tree : FileTree) (path : String) : Except ReadFailure ByteArray :=
  if path.isEmpty then .error .missing
  else
    match tree.follow (.start path) (Place.names path) with
    | .error failure => .error failure
    | .ok .directory => .error .isDirectory
    | .ok (.file content) =>
      if asksForDirectory path then .error .notDirectory else .ok content

end FileTree

end ByteMachine
