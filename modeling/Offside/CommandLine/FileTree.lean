import Offside.CommandLine.Files

/-!
# Files in memory

A directory tree held in memory, as the file system of a command. Paths are taken from the root of
the tree; a name with slashes lies in the directories it names. The tree itself lies in a directory
of which nothing is known, nor of those above it, except that they are there.
-/

namespace Offside
namespace CommandLine

inductive FileTree.Entry
  | file (contents : ByteArray)
  /-- A file of zero bytes. -/
  | blank (size : Nat)
  | directory

abbrev FileTree := List (String × FileTree.Entry)

namespace FileTree

/-- The steps of a path. Empty steps and single dots lead nowhere. -/
def steps (path : String) : List String :=
  (path.splitOn "/").filter fun step => step != "" && step != "."

/-- Whether a path ends in a way that only a directory can. -/
def asksForDirectory (path : String) : Bool :=
  match (path.splitOn "/").getLast? with
  | some step => step == "" || step == "."
  | none => false

/-- The entry at exactly these steps. A step on the way to an entry is a directory. -/
def entry? (tree : FileTree) (entrySteps : List String) : Option Entry :=
  if entrySteps.isEmpty then
    some .directory
  else
    match tree.find? fun (path, _) => steps path == entrySteps with
    | some (_, entry) => some entry
    | none =>
        if tree.any fun (path, _) => entrySteps.isPrefixOf (steps path) then
          some .directory
        else
          none

/-- A directory that a path has led to. -/
inductive Directory
  /-- Steps from the root of the tree. -/
  | inside (path : List String)
  /-- Somewhere above the tree. -/
  | above

/-- The directory that holds a directory. The one at the top of all holds itself. -/
def Directory.parent : Directory → Directory
  | inside [] => above
  | inside path => inside path.dropLast
  | above => above

/-- The longest step of a path in bytes. -/
def stepLimit : Nat := 255

/-- The longest path in bytes. -/
def pathLimit : Nat := 4095

/-- Follows the steps of a path from a directory. Two dots lead back by one. -/
def walk (tree : FileTree) (directory : Directory) : List String → Except Obstacle Entry
  | [] => .ok .directory
  | step :: rest =>
      if step = ".." then
        walk tree directory.parent rest
      else if step.utf8ByteSize > stepLimit then
        .error .nameTooLong
      else
        match directory with
        | .above => .error .noSuchEntry
        | .inside path =>
            match tree.entry? (path ++ [step]), rest with
            | none, _ => .error .noSuchEntry
            | some .directory, rest => walk tree (.inside (path ++ [step])) rest
            | some entry, [] => .ok entry
            | some _, _ :: _ => .error .notDirectory

/-- The entry that a path leads to. A path that starts with a slash comes from the top. -/
def find (tree : FileTree) (path : String) : Except Obstacle Entry :=
  if path.toList.contains '\x00' then
    .error .zeroInName
  else if path.isEmpty then
    .error .noSuchEntry
  else if path.utf8ByteSize > pathLimit then
    .error .nameTooLong
  else do
    let start := if path.startsWith "/" then .above else .inside []
    match ← tree.walk start (steps path) with
    | .directory => return .directory
    | entry => if asksForDirectory path then .error .notDirectory else return entry

/-- The size that a directory itself has. -/
def directorySize : Nat := 4096

def access (tree : FileTree) : FileAccess Id where
  size path :=
    match tree.find path with
    | .error obstacle => .error obstacle
    | .ok (.file contents) => .ok contents.size
    | .ok (.blank size) => .ok size
    | .ok .directory => .ok directorySize
  contents path :=
    match tree.find path with
    | .error obstacle => .error obstacle
    | .ok (.file contents) => .ok contents
    | .ok (.blank size) => .ok ⟨Array.replicate size 0⟩
    | .ok .directory => .error .isDirectory

end FileTree

end CommandLine
end Offside
