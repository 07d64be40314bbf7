import Offside.CommandLine.Run

/-!
# The program

Runs the command line on the files of the system.
-/

namespace Offside

/-- The number of an error. Some calls of the system give it negated. -/
def errorNumber (code : UInt32) : UInt32 :=
  if code < 0x80000000 then code else 0 - code

/-- The obstacle behind an error of the system. -/
def obstacleOf (error : IO.Error) : CommandLine.Obstacle :=
  match error with
  | .noFileOrDirectory .. => .noSuchEntry
  | .inappropriateType _ code _ =>
      if errorNumber code = 21 then .isDirectory else .notDirectory
  | .invalidArgument _ code _ =>
      if errorNumber code = 36 then .nameTooLong else .other (toString error)
  | .permissionDenied _ code _ =>
      if errorNumber code = 13 then .accessDenied else .other (toString error)
  | other => .other (toString other)

/-- The path of a file name as given. -/
def pathOf (file : String) :=
  ({ root := ".", fileName := file } : IO.FS.DirEntry).path

def systemFiles : CommandLine.FileAccess IO where
  size file := do
    try
      return .ok (← (pathOf file).metadata).byteSize.toNat
    catch error =>
      return .error (obstacleOf error)
  contents file := do
    try
      return .ok (← IO.FS.readBinFile (pathOf file))
    catch error =>
      return .error (obstacleOf error)

end Offside

def main (arguments : List String) : IO UInt32 := do
  let outcome ← Offside.CommandLine.run Offside.systemFiles arguments
  IO.print outcome.output
  IO.eprint outcome.errors
  return UInt32.ofNat outcome.exitCode
