import NodeLookup.Settings

/-!
# Command lines

The parts of a command line: options with values, what each argument looks like, and the reasons for
which no command comes of it. Each option can also be given by a variable of the environment.
-/

namespace NodeLookup.CommandLine

/-- An option that takes a value. -/
inductive ValueOption where
  | configFile
  | setting (key : SettingKey)
deriving DecidableEq, Repr, Inhabited

namespace ValueOption

/-- All options that take a value. -/
def all : List ValueOption := configFile :: SettingKey.all.map setting

/-- The word of an option, without its dashes. -/
def word : ValueOption → String
  | configFile => "cloud-config"
  | setting .providerName => "provider-name"
  | setting .endpoint => "ecs-endpoint"
  | setting .region => "region"
  | setting .projectId => "project-id"
  | setting .authToken => "auth-token"
  | setting .requestTimeout => "request-timeout"

/-- The variable of the environment that gives the option too. -/
def variableName : ValueOption → String
  | configFile => "CLOUD_CONFIG"
  | setting .providerName => "CLOUD_PROVIDER_NAME"
  | setting .endpoint => "ECS_ENDPOINT"
  | setting .region => "ECS_REGION"
  | setting .projectId => "ECS_PROJECT_ID"
  | setting .authToken => "ECS_AUTH_TOKEN"
  | setting .requestTimeout => "ECS_REQUEST_TIMEOUT"

end ValueOption

/-- An option known at a place where options may stand. -/
inductive KnownOption where
  | help
  | version
  | value (option : ValueOption)
deriving DecidableEq, Repr, Inhabited

/-- The option of a word before the command. -/
def KnownOption.ofWord? (word : List Char) : Option KnownOption :=
  match String.ofList word with
  | "help" => some .help
  | "version" => some .version
  | word => (ValueOption.all.find? (·.word == word)).map .value

/-- The option of a letter. -/
def KnownOption.ofLetter? : Char → Option KnownOption
  | 'h' => some .help
  | 'V' => some .version
  | _ => none

/-- Why no command comes of a command line. -/
inductive Stop where
  | help
  | version
  | unknownArgument
  | missingCommand
  | missingOperand
  | missingValue
  | unfitValue
  | repeatedOption
deriving DecidableEq, Repr, Inhabited

/-- Whether the stop is what the command line asks for, and not a mistake in it. -/
def Stop.isRequested : Stop → Bool
  | help => true
  | version => true
  | _ => false

/-- What an argument looks like. -/
inductive Shape where
  /-- Two dashes alone, after which nothing is an option. -/
  | endOfOptions
  | long (word : List Char) (value : Option String)
  /-- Letters behind one dash, of which the first counts. -/
  | short (letter : Char)
  /-- Anything else; a dash alone is as plain as a word. -/
  | plain
deriving DecidableEq, Repr, Inhabited

/-- The shape of what stands behind the dashes of a long option. Further equals signs right behind the
first are not part of the value. -/
def Shape.ofBody (body : List Char) : Shape :=
  match body.dropWhile (· != '=') with
  | [] => .long body none
  | _ :: value => .long (body.takeWhile (· != '=')) (some (String.ofList (value.dropWhile (· == '='))))

/-- The shape of an argument. -/
def Shape.of (argument : String) : Shape :=
  match argument.toList with
  | ['-', '-'] => .endOfOptions
  | '-' :: '-' :: body => .ofBody (body.dropWhile (· == '-'))
  | '-' :: letter :: _ => .short letter
  | _ => .plain

end NodeLookup.CommandLine
