import Resolver.Database.Reader

/-!
# Directories

A tree of files and directories held in memory, and what the system answers when it is asked for
what stands at a path. A path is walked from the left; the first name that leads nowhere decides, and
an empty path leads nowhere.
-/

namespace Resolver

/-- A tree of files. -/
inductive FileTree
  | file (block : Block)
  | directory (entries : List (String × FileTree))

namespace FileTree

/-- What can be read at a place in a tree. -/
def content : FileTree → Content
  | file block => .file block
  | directory _ => .directory

/-- What stands under a name in a directory. -/
def entry? (name : String) : FileTree → Option FileTree
  | file _ => none
  | directory entries => entries.lookup name

/-- The most bytes of a file name. -/
def maxName : Nat := 255

/-- The most bytes of a path. -/
def maxPath : Nat := 4095

/-- Goes along names from a place that stands inside the directories `outer`, the innermost
first. One dot stays in a directory and two dots lead out of it; the root leads to itself. -/
def walk (outer : List FileTree) (here : FileTree) : List String → Except OsError FileTree
  | [] => .ok here
  | name :: names =>
    match here with
    | file _ => .error .notDirectory
    | directory _ =>
      if name = "" ∨ name = "." then walk outer here names
      else if name = ".." then walk outer.tail (outer.headD here) names
      else if maxName < name.utf8ByteSize then .error .nameTooLong
      else match here.entry? name with
        | some next => walk (here :: outer) next names
        | none => .error .noEntry

/-- The names on a path. -/
def names (path : String) : List String :=
  path.splitOn "/"

/-- What stands at a path, walked from the root if the path starts there and else from a directory
inside the root. -/
def openPath (root current : FileTree) (path : String) : Except OsError FileTree :=
  if path = "" then .error .noEntry
  else if maxPath < path.utf8ByteSize then .error .nameTooLong
  else match names path with
    | "" :: rest => walk [] root rest
    | all => walk [root] current all

end FileTree

end Resolver
