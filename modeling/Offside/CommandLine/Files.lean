/-!
# Files

How a command gets at the text of its file. The two questions that are put to the file system, for
the size and for the bytes, come as a value, so that a command can run on real files and on files
held in memory alike.
-/

namespace Offside
namespace CommandLine

/-- Why the file system has no answer. -/
inductive Obstacle
  | noSuchEntry
  | notDirectory
  | isDirectory
  | nameTooLong
  /-- A zero character, which ends a name in the file system, inside the name. -/
  | zeroInName
  | accessDenied
  | other (text : String)
  deriving DecidableEq, Repr

def Obstacle.message : Obstacle → String
  | noSuchEntry => "No such file or directory (os error 2)"
  | notDirectory => "Not a directory (os error 20)"
  | isDirectory => "Is a directory (os error 21)"
  | nameTooLong => "File name too long (os error 36)"
  | zeroInName => "file name contained an unexpected NUL byte"
  | accessDenied => "Permission denied (os error 13)"
  | other text => text

structure FileAccess (m : Type → Type) where
  size : String → m (Except Obstacle Nat)
  contents : String → m (Except Obstacle ByteArray)

/-- Why a file gives no source text. -/
inductive SourceFault
  | inaccessible (file : String) (obstacle : Obstacle)
  | tooLarge (file : String) (size : Nat)
  | unreadable (file : String) (obstacle : Obstacle)
  | notText (file : String)
  deriving DecidableEq, Repr

/-- The largest source file in bytes. -/
def sizeLimit : Nat := 100 * 1024 * 1024

def SourceFault.message : SourceFault → String
  | inaccessible file obstacle => "Cannot access file '" ++ file ++ "': " ++ obstacle.message
  | tooLarge file size =>
      "Source file '" ++ file ++ s!"' is too large ({size} bytes, max {sizeLimit} bytes)"
  | unreadable file obstacle => "Error reading file '" ++ file ++ "': " ++ obstacle.message
  | notText file =>
      "Error reading file '" ++ file ++ "': stream did not contain valid UTF-8"

/-- The source text of a file. The size is checked before anything is read. -/
def FileAccess.readSource {m : Type → Type} [Monad m] (access : FileAccess m) (file : String) :
    m (Except SourceFault String) := do
  match ← access.size file with
  | .error obstacle => return .error (.inaccessible file obstacle)
  | .ok size =>
      if size > sizeLimit then
        return .error (.tooLarge file size)
      else
        match ← access.contents file with
        | .error obstacle => return .error (.unreadable file obstacle)
        | .ok bytes =>
            match String.fromUTF8? bytes with
            | some source => return .ok source
            | none => return .error (.notText file)

end CommandLine
end Offside
