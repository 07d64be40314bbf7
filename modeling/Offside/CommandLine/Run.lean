import Offside.CommandLine.Files
import Offside.CommandLine.Request
import Offside.Report
import Offside.Session.Run

/-!
# Running a command line

The whole program as a function of its arguments and files: what it prints, and its exit code.
-/

namespace Offside
namespace CommandLine

structure Outcome where
  exitCode : Nat
  output : String := ""
  errors : String := ""
  deriving DecidableEq, Repr

namespace Outcome

def success (output : String) : Outcome where
  exitCode := 0
  output := output

/-- The run failed, after printing `output`. -/
def failure (output errors : String) : Outcome where
  exitCode := 1
  output := output
  errors := errors

/-- The command line itself was wrong. -/
def misuse (errors : String) : Outcome where
  exitCode := 2
  errors := errors

end Outcome

def programName : String := "kokascan"

def version : String := "0.1.0-alpha.1"

/-! ## Help -/

def optionsHelp : String :=
  "Options:\n" ++
  "      --policy <POLICY>   permissive or heuristic [default: permissive]\n" ++
  "      --capacity <BYTES>  Checkpoint buffer size in bytes [default: 1024]\n"

def help : Option Command → String
  | none =>
      "Layout scanner for Koka: synthetic braces and semicolons from indentation\n\n" ++
      "Usage: " ++ programName ++ " <COMMAND>\n\n" ++
      "Commands:\n" ++
      "  tokens       Print the token stream\n" ++
      "  checkpoints  Print and verify serialized checkpoints\n" ++
      "  help         Print this message or the help of the given subcommand(s)\n\n" ++
      "Options:\n" ++
      "  -h, --help     Print help\n" ++
      "  -V, --version  Print version\n"
  | some .tokens =>
      "Print the token stream\n\n" ++
      "Usage: " ++ programName ++ " tokens [OPTIONS] <FILE>\n\n" ++
      optionsHelp ++
      "      --json              Emit JSON instead of text\n" ++
      "      --compact           Print the stream on one line\n" ++
      "      --checkpoints       Include the checkpoint saved after each external token\n" ++
      "  -h, --help              Print help\n"
  | some .checkpoints =>
      "Print and verify serialized checkpoints\n\n" ++
      "Usage: " ++ programName ++ " checkpoints [OPTIONS] <FILE>\n\n" ++
      optionsHelp ++
      "  -h, --help              Print help\n"

def Detour.outcome : Detour → Outcome
  | .help topic => .success (CommandLine.help topic)
  | .version => .success (programName ++ " " ++ CommandLine.version ++ "\n")
  | .usage fault => .misuse ("error: " ++ fault.message ++ "\n")

/-! ## Commands -/

/-- How a fault of a session is reported: its code, then its message. -/
def faultReport (fault : Fault) : String :=
  let diagnostic := fault.diagnostic
  diagnostic.code ++ "\n\n  " ++ diagnostic.message ++ "\n"

def tokensOutcome (config : Config) (format : Report.Format) (withCheckpoints : Bool)
    (source : String) : Outcome :=
  match (tokenize config source).value with
  | .error fault => .failure "" (faultReport fault)
  | .ok stream => .success (Report.print format source stream withCheckpoints ++ "\n")

def checkpointsOutcome (config : Config) (source : String) : Outcome :=
  match (tokenize config source).value with
  | .error fault => .failure "" (faultReport fault)
  | .ok stream =>
      let listing := String.join (stream.checkpoints.map fun saved => saved.report ++ "\n")
      -- The listing stands even if a checkpoint turns out to be at fault.
      match (stream.verify config.capacity).value with
      | some fault => .failure listing (faultReport fault)
      | none =>
          .success (listing ++ s!"{stream.checkpoints.length} checkpoints verified\n")

/-- Where both are asked for, JSON goes before the compact format. -/
def chooseFormat (json compact : Bool) : Report.Format :=
  if json then .json else if compact then .compact else .text

def Request.target : Request → Target
  | .tokens target _ _ _ => target
  | .checkpoints target => target

/-- Answers a request with the source text of its file. -/
def Request.outcome (request : Request) (source : String) : Outcome :=
  match request with
  | .tokens target json compact withCheckpoints =>
      tokensOutcome target.config (chooseFormat json compact) withCheckpoints source
  | .checkpoints target => checkpointsOutcome target.config source

/-- Runs a command line. -/
def run {m : Type → Type} [Monad m] (access : FileAccess m) (arguments : List String) :
    m Outcome := do
  match read arguments with
  | .error detour => return detour.outcome
  | .ok request =>
      match ← access.readSource request.target.file with
      | .error fault => return .failure "" (fault.message ++ "\n")
      | .ok source => return request.outcome source

end CommandLine
end Offside
