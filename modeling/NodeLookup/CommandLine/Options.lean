import NodeLookup.CommandLine
import NodeLookup.Settings.File
import NodeLookup.Text.Digits

/-!
# Options from a command line

From the options as they are given to what they say. The environment adds its own value behind those
of the command line, so the command line's counts; but every value has to fit, also one that does not
count.
-/

namespace NodeLookup.CommandLine

/-- An option as it is given, without a value if another option follows at once. -/
structure Given where
  option : ValueOption
  value : Option String
deriving DecidableEq, Repr, Inhabited

/-- The values that the environment gives to options. -/
abbrev Environment := ValueOption → Option String

/-- The greatest number of seconds that an option can give. -/
def maxSeconds : Nat := 0xFFFFFFFFFFFFFFFF

/-- The number of seconds that a text gives: decimal digits, perhaps behind a plus sign. -/
def seconds? (text : String) : Option Nat :=
  let digits :=
    match text.toList with
    | '+' :: digits => digits
    | digits => digits
  if digits.isEmpty then none else (Text.numberOf? 10 digits).filter (· ≤ maxSeconds)

/-- Whether an option takes a value. -/
def ValueOption.accepts (option : ValueOption) (value : String) : Bool :=
  match option with
  | .setting .requestTimeout => (seconds? value).isSome
  | _ => true

/-- The values of an option, the command line's before the environment's. -/
def valuesOf (given : List Given) (environment : Environment) (option : ValueOption) : List String :=
  (given.filter (·.option == option)).filterMap (·.value) ++ (environment option).toList

/-- How often the command line gives an option. -/
def countOf (given : List Given) (option : ValueOption) : Nat :=
  given.countP (·.option == option)

/-- Why an option cannot be taken as given, if there is a reason. -/
def fault? (given : List Given) (environment : Environment) (option : ValueOption) : Option Stop :=
  let values := valuesOf given environment option
  if values.isEmpty && countOf given option != 0 then some .missingValue
  else if values.any fun value => !option.accepts value then some .unfitValue
  else if 1 < countOf given option then some .repeatedOption
  else none

/-- The options that values give. -/
def optionsOf (value : ValueOption → Option String) : Options where
  configFile := value .configFile
  flags := {
    providerName := value (.setting .providerName)
    endpoint := value (.setting .endpoint)
    region := value (.setting .region)
    projectId := value (.setting .projectId)
    authToken := value (.setting .authToken)
    requestTimeout := (value (.setting .requestTimeout)).bind seconds? }

/-- What the given options say. -/
def resolveOptions (given : List Given) (environment : Environment) : Except Stop Options :=
  match ValueOption.all.findSome? (fault? given environment) with
  | some stop => .error stop
  | none => .ok (optionsOf fun option => (valuesOf given environment option).head?)

end NodeLookup.CommandLine
