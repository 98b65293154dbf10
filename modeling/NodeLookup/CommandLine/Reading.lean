import NodeLookup.Command
import NodeLookup.CommandLine.Options

/-!
# Reading command lines

Options stand before the command and its operand behind it. The first argument that means nothing ends
the reading, and so does the first that asks for help; only when everything has been read are the
options themselves looked at.
-/

namespace NodeLookup.CommandLine

/-- A command line that was understood. -/
structure Invocation where
  options : Options
  command : Command
deriving DecidableEq, Repr, Inhabited

/-- A command line up to its command. -/
structure Head where
  given : List Given
  name : CommandName
  rest : List String
deriving DecidableEq, Repr, Inhabited

/-- The word that asks for help about the program or about one command. -/
def helpWord : String := "help"

/-- What comes of asking for help by a word: help about a command that exists. -/
def helpStop : List String → Stop
  | [] => .help
  | [word] => if word == helpWord || (CommandName.ofWord? word).isSome then .help else .unknownArgument
  | _ => .unknownArgument

/-- Closes an option that was waiting for a value. -/
def closed (pending : Option ValueOption) (given : List Given) : List Given :=
  match pending with
  | none => given
  | some option => given ++ [⟨option, none⟩]

/-- Reads arguments up to the command, with the options before them and the one that still waits for a
value. An argument that looks like an option is never the value of the one before it. -/
def readHead (given : List Given) (pending : Option ValueOption) : List String → Except Stop Head
  | [] => .error .missingCommand
  | argument :: rest =>
    match Shape.of argument with
    | .plain =>
      match pending with
      | some option => readHead (given ++ [⟨option, some argument⟩]) none rest
      | none =>
        if argument == helpWord then .error (helpStop rest)
        else
          match CommandName.ofWord? argument with
          | none => .error .unknownArgument
          | some name => .ok ⟨given, name, rest⟩
    | .endOfOptions => .error (if rest.isEmpty then .missingCommand else .unknownArgument)
    | .short letter =>
      match KnownOption.ofLetter? letter with
      | some .help => .error .help
      | some .version => .error .version
      | _ => .error .unknownArgument
    | .long word value =>
      match KnownOption.ofWord? word with
      | none => .error .unknownArgument
      | some .help => .error .help
      | some .version => .error .version
      | some (.value option) =>
        match value with
        | none => readHead (closed pending given) (some option) rest
        | some value => readHead (closed pending given ++ [⟨option, some value⟩]) none rest

/-- Why an argument behind a command is no operand, if it looks like an option. Only help and the
version can be asked for there. -/
def operandStop? (argument : String) : Option Stop :=
  match Shape.of argument with
  | .plain => none
  | .endOfOptions => none
  | .short letter =>
    match KnownOption.ofLetter? letter with
    | some .help => some .help
    | some .version => some .version
    | _ => some .unknownArgument
  | .long word _ =>
    match KnownOption.ofWord? word with
    | some .help => some .help
    | some .version => some .version
    | _ => some .unknownArgument

/-- Reads the arguments behind a command, with the operand found so far. Once the options have ended,
every argument is an operand. -/
def readOperand (operand : Option String) (ended : Bool) : List String → Except Stop (Option String)
  | [] => .ok operand
  | argument :: rest =>
    if !ended && Shape.of argument == .endOfOptions then readOperand operand true rest
    else
      match if ended then none else operandStop? argument with
      | some stop => .error stop
      | none =>
        match operand with
        | none => readOperand (some argument) ended rest
        | some _ => .error .unknownArgument

/-- Reads the command behind a head. -/
def readCommand (head : Head) : Except Stop Command := do
  let operand ← readOperand none false head.rest
  match head.name.withOperand? operand with
  | none => .error .missingOperand
  | some command => .ok command

/-- Reads a command line in an environment. -/
def read (arguments : List String) (environment : Environment) : Except Stop Invocation := do
  let head ← readHead [] none arguments
  let command ← readCommand head
  let options ← resolveOptions head.given environment
  return { options, command }

end NodeLookup.CommandLine
