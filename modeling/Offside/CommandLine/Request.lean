import Offside.Session

/-!
# Requests

What a command line asks for. The first argument is the command, the others are its file and its
options. A value may be given in the same argument as its option, behind `=`, and is then checked at
once. A value in an argument of its own, like the file, is checked when the next argument that the
command knows starts, or at the end. An argument that the command does not know ends the reading
before that.
-/

namespace Offside
namespace CommandLine

inductive Command
  /-- Prints the lexemes of a file. -/
  | tokens
  /-- Prints and verifies the checkpoints of a file. -/
  | checkpoints
  deriving DecidableEq, Repr

namespace Command

def name : Command → String
  | tokens => "tokens"
  | checkpoints => "checkpoints"

def ofName? (name : String) : Option Command :=
  [tokens, checkpoints].find? fun command => command.name == name

end Command

/-- The file to read and how to read it. -/
structure Target where
  file : String
  config : Config
  deriving DecidableEq, Repr

inductive Request
  | tokens (target : Target) (json compact checkpoints : Bool)
  | checkpoints (target : Target)
  deriving DecidableEq, Repr

inductive UsageFault
  | noCommand
  | unknownCommand (name : String)
  | unknownArgument (argument : String)
  /-- An option lacks its value, the file's name is empty, or no policy has the name given. -/
  | invalidValue (parameter : String)
  /-- The capacity is no number, or too large a number. -/
  | malformedNumber (value : String)
  /-- A switch was given a value. -/
  | surplusValue (switch : String)
  /-- An option was given twice, or along with one that excludes it. -/
  | conflict (argument : String)
  | missingFile
  deriving DecidableEq, Repr

namespace UsageFault

def message : UsageFault → String
  | noCommand => "a command is required"
  | unknownCommand name => "unrecognized subcommand '" ++ name ++ "'"
  | unknownArgument argument => "unexpected argument '" ++ argument ++ "' found"
  | invalidValue parameter => "invalid value for '" ++ parameter ++ "'"
  | malformedNumber value => "invalid number '" ++ value ++ "' for '--capacity'"
  | surplusValue switch => "unexpected value for '" ++ switch ++ "' found; no more were expected"
  | conflict argument => "the argument '" ++ argument ++ "' cannot be used here"
  | missingFile => "the following required arguments were not provided: <FILE>"

end UsageFault

/-- What a command line asks for instead of a run, or has wrong. -/
inductive Detour
  /-- Help on a command, or on all. -/
  | help (topic : Option Command)
  | version
  | usage (fault : UsageFault)
  deriving DecidableEq, Repr

/-! ## Arguments -/

/-- An argument by its form. -/
inductive Argument
  /-- All later arguments are plain, whatever their form. -/
  | escape
  | long (name : String) (attached : Option String)
  /-- A dash and a letter; what follows the letter does not matter here. -/
  | short (letter : Char)
  | plain
  deriving DecidableEq, Repr

namespace Argument

/-- A name up to the first `=`, and the value behind it. -/
def splitAttached (chars : List Char) : Argument :=
  match chars.dropWhile (· != '=') with
  | [] => .long (String.ofList chars) none
  | _ :: value => .long (String.ofList (chars.takeWhile (· != '='))) (some (String.ofList value))

def ofString (argument : String) : Argument :=
  match argument.toList with
  | ['-', '-'] => .escape
  | '-' :: '-' :: rest => splitAttached rest
  | '-' :: letter :: _ => .short letter
  | _ => .plain

end Argument

/-! ## Values -/

/-- Reads a number below 2^64: decimal digits, with a plus sign in front or not. -/
def readCapacity? (value : String) : Option Nat :=
  let digits :=
    match value.toList with
    | '+' :: rest => rest
    | chars => chars
  if !digits.isEmpty && digits.all Char.isDigit then
    let number := digits.foldl (fun n c => 10 * n + (c.toNat - '0'.toNat)) 0
    if number < UInt64.size then some number else none
  else
    none

/-! ## Options of a command -/

/-- What takes a value. -/
inductive Parameter
  | file
  | policy
  | capacity
  deriving DecidableEq, Repr

inductive Switch
  | json
  | compact
  | checkpoints
  deriving DecidableEq, Repr

namespace Parameter

def name : Parameter → String
  | file => "FILE"
  | policy => "--policy"
  | capacity => "--capacity"

end Parameter

namespace Switch

def name : Switch → String
  | json => "--json"
  | compact => "--compact"
  | checkpoints => "--checkpoints"

end Switch

/-- What a long name means. -/
inductive Meaning
  | parameter (parameter : Parameter)
  | switch (switch : Switch)
  | help
  deriving DecidableEq, Repr

/-- The long names that a command knows. -/
def Command.meaning? (command : Command) (name : String) : Option Meaning :=
  match name, command with
  | "policy", _ => some (.parameter .policy)
  | "capacity", _ => some (.parameter .capacity)
  | "help", _ => some .help
  | "json", .tokens => some (.switch .json)
  | "compact", .tokens => some (.switch .compact)
  | "checkpoints", .tokens => some (.switch .checkpoints)
  | _, _ => none

/-- What the arguments of a command have given so far. -/
structure Gathered where
  file : Option String := none
  policy : Option Policy := none
  capacity : Option Nat := none
  json : Bool := false
  compact : Bool := false
  checkpoints : Bool := false
  /-- The file was named, whether the name has been checked or not. -/
  hasFile : Bool := false
  /-- What still waits for its value, or for the check of its value. -/
  waiting : Option (Parameter × Option String) := none

namespace Gathered

/-- Checks and records the value of a parameter. -/
def record (gathered : Gathered) (value : String) : Parameter → Except UsageFault Gathered
  | .file =>
      if value.isEmpty then
        .error (.invalidValue Parameter.file.name)
      else
        .ok { gathered with file := some value }
  | .policy =>
      if gathered.policy.isSome then
        .error (.conflict Parameter.policy.name)
      else
        match Policy.ofName? value with
        | some policy => .ok { gathered with policy := some policy }
        | none => .error (.invalidValue Parameter.policy.name)
  | .capacity =>
      if gathered.capacity.isSome then
        .error (.conflict Parameter.capacity.name)
      else
        match readCapacity? value with
        | some capacity => .ok { gathered with capacity := some capacity }
        | none => .error (.malformedNumber value)

/-- Checks what waits for its check. -/
def settle (gathered : Gathered) : Except UsageFault Gathered :=
  match gathered.waiting with
  | none => .ok gathered
  | some (parameter, none) => .error (.invalidValue parameter.name)
  | some (parameter, some value) => { gathered with waiting := none }.record value parameter

def turnOn (gathered : Gathered) : Switch → Except UsageFault Gathered
  | .json =>
      if gathered.json then
        .error (.conflict Switch.json.name)
      else
        .ok { gathered with json := true }
  | .compact =>
      if gathered.compact then
        .error (.conflict Switch.compact.name)
      else
        .ok { gathered with compact := true }
  | .checkpoints =>
      if gathered.checkpoints then
        .error (.conflict Switch.checkpoints.name)
      else
        .ok { gathered with checkpoints := true }

/-- Takes an argument that is no option. Only the file is one. -/
def takePlain (gathered : Gathered) (argument : String) : Except UsageFault Gathered :=
  if gathered.hasFile then
    .error (.unknownArgument argument)
  else do
    let gathered ← gathered.settle
    return { gathered with hasFile := true, waiting := some (.file, some argument) }

/-- Takes an argument without dashes, which is the value of an option that lacks one. -/
def takeValue (gathered : Gathered) (argument : String) : Except UsageFault Gathered :=
  match gathered.waiting with
  | some (parameter, none) => .ok { gathered with waiting := some (parameter, some argument) }
  | _ => gathered.takePlain argument

/-- Takes an argument of the form `--name` or `--name=value`. -/
def takeLong (gathered : Gathered) (command : Command) (name : String)
    (attached : Option String) : Except Detour Gathered :=
  match command.meaning? name, attached with
  | none, _ => .error (.usage (.unknownArgument ("--" ++ name)))
  | some (.parameter parameter), some value =>
      (do (← gathered.settle).record value parameter).mapError .usage
  | some (.parameter parameter), none =>
      (do return { ← gathered.settle with waiting := some (parameter, none) }).mapError .usage
  | some (.switch switch), some _ => .error (.usage (.surplusValue switch.name))
  | some (.switch switch), none => (do (← gathered.settle).turnOn switch).mapError .usage
  | some .help, some _ => .error (.usage (.surplusValue "--help"))
  | some .help, none =>
      match gathered.settle with
      | .error fault => .error (.usage fault)
      | .ok _ => .error (.help (some command))

/-- Takes an argument of the form `-x`. The only such option asks for help. -/
def takeShort (gathered : Gathered) (command : Command) (letter : Char) :
    Except Detour Gathered :=
  if letter = 'h' then
    gathered.takeLong command "help" none
  else
    .error (.usage (.unknownArgument (String.ofList ['-', letter])))

/-- Takes the arguments of a command. Behind an escape all of them are plain. -/
def takeAll (command : Command) (escaped : Bool) (gathered : Gathered) :
    List String → Except Detour Gathered
  | [] => gathered.settle.mapError .usage
  | argument :: rest =>
      if escaped then do
        let gathered ← (gathered.takePlain argument).mapError .usage
        gathered.takeAll command escaped rest
      else
        match Argument.ofString argument with
        | .escape => gathered.takeAll command true rest
        | .long name attached => do
            let gathered ← gathered.takeLong command name attached
            gathered.takeAll command escaped rest
        | .short letter => do
            let gathered ← gathered.takeShort command letter
            gathered.takeAll command escaped rest
        | .plain => do
            let gathered ← (gathered.takeValue argument).mapError .usage
            gathered.takeAll command escaped rest

/-- The request of a command with all its arguments. -/
def request (gathered : Gathered) (command : Command) : Except UsageFault Request :=
  if gathered.json && gathered.compact then
    .error (.conflict Switch.json.name)
  else
    match gathered.file with
    | none => .error .missingFile
    | some file =>
        let target : Target :=
          { file := file
            config :=
              { policy := gathered.policy.getD .permissive
                capacity := gathered.capacity.getD Checkpoint.defaultCapacity } }
        match command with
        | .tokens =>
            .ok (.tokens target gathered.json gathered.compact gathered.checkpoints)
        | .checkpoints => .ok (.checkpoints target)

end Gathered

/-! ## Whole command lines -/

/-- The word that asks for help in place of a command. -/
def helpCommand : String := "help"

/-- Help on the command named, if one is; commands have no commands of their own. -/
def helpOn : List String → Detour
  | [] => .help none
  | [name] =>
      if name = helpCommand then
        .help none
      else
        match Command.ofName? name with
        | some command => .help (some command)
        | none => .usage (.unknownCommand name)
  | name :: inner :: _ =>
      if name = helpCommand || (Command.ofName? name).isSome then
        .usage (.unknownCommand inner)
      else
        .usage (.unknownCommand name)

/-- An option in front of the command. -/
def leadingLong (name : String) (attached : Option String) : Detour :=
  match name, attached with
  | "help", none => .help none
  | "version", none => .version
  | "help", some _ => .usage (.surplusValue "--help")
  | "version", some _ => .usage (.surplusValue "--version")
  | _, _ => .usage (.unknownArgument ("--" ++ name))

def leadingShort (letter : Char) : Detour :=
  if letter = 'h' then
    .help none
  else if letter = 'V' then
    .version
  else
    .usage (.unknownArgument (String.ofList ['-', letter]))

/-- What follows an escape in place of a command. -/
def afterEscape : List String → Detour
  | [] => .usage .noCommand
  | name :: _ =>
      if name = helpCommand || (Command.ofName? name).isSome then
        .usage (.unknownArgument name)
      else
        .usage (.unknownCommand name)

/-- Reads a command line. -/
def read : List String → Except Detour Request
  | [] => .error (.usage .noCommand)
  | first :: rest =>
      match Command.ofName? first with
      | some command => do
          let gathered ← Gathered.takeAll command false {} rest
          (gathered.request command).mapError .usage
      | none =>
          if first = helpCommand then
            .error (helpOn rest)
          else
            match Argument.ofString first with
            | .escape => .error (afterEscape rest)
            | .long name attached => .error (leadingLong name attached)
            | .short letter => .error (leadingShort letter)
            | .plain => .error (.usage (.unknownCommand first))

end CommandLine
end Offside
