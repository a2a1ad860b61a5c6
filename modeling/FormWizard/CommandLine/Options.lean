import FormWizard.Text.Numeral

/-! The commands of the command line and the options that they take. Options are written behind
two hyphens, and a value stands in the next argument or behind an equals sign.
-/

namespace FormWizard.CommandLine

/-- The files and settings that a command starts from. -/
structure Inputs where
  schema : String
  data : Option String
  context : Option String
  environment : Option String
deriving DecidableEq, Repr

/-- What the command line is asked to do. -/
inductive Command where
  | steps (inputs : Inputs)
  | fields (inputs : Inputs) (step : String)
  | next (inputs : Inputs) (step : String) (passReview : Bool)
  | previous (inputs : Inputs) (step : String)
  | path (inputs : Inputs) (start goal : String) (maxSteps : Option Nat)
  | compute (inputs : Inputs) (changed : Option String) (write : Bool)
  | check (schema : String) (asJson : Bool)
deriving DecidableEq, Repr

/-- A command, with the file of the settings if one is given. -/
structure Invocation where
  config : Option String
  command : Command
deriving DecidableEq, Repr

/-- The files that inputs are read from. -/
def Inputs.files (inputs : Inputs) : List String :=
  inputs.schema :: inputs.data.toList ++ inputs.context.toList

/-- The files that a command reads. -/
def Command.files : Command → List String
  | steps inputs | fields inputs _ | next inputs _ _ | previous inputs _ | path inputs _ _ _
  | compute inputs _ _ => inputs.files
  | check schema _ => [schema]

/-- The files that an invocation reads. -/
def Invocation.files (invocation : Invocation) : List String :=
  invocation.config.toList ++ invocation.command.files

/-- Why the arguments are no invocation. -/
inductive UsageError where
  | noCommand
  | unknownCommand (name : String)
  | unexpected (argument : String)
  | missingValue (option : String)
  | needlessValue (option : String)
  | repeated (option : String)
  | missing (option : String)
  | noCount (option : String) (value : String)
deriving DecidableEq, Repr

/-- The wording of a usage error. -/
def UsageError.message : UsageError → String
  | .noCommand => "a command is required"
  | .unknownCommand name => "unrecognized command '" ++ name ++ "'"
  | .unexpected argument => "unexpected argument '" ++ argument ++ "'"
  | .missingValue option => "a value is required for '--" ++ option ++ "'"
  | .needlessValue option => "no value is expected for '--" ++ option ++ "'"
  | .repeated option => "'--" ++ option ++ "' cannot be used multiple times"
  | .missing option => "'--" ++ option ++ "' is required"
  | .noCount option value => "invalid value '" ++ value ++ "' for '--" ++ option ++ "'"

/-- How an option is written: its names, the first of which counts, and whether it has a value. -/
structure OptionForm where
  names : List String
  hasValue : Bool

/-- Options with values and switches without. -/
def forms (valued switches : List String) : List OptionForm :=
  valued.map (⟨[·], true⟩) ++ switches.map (⟨[·], false⟩)

/-- The options that every command takes. -/
def globalForms : List OptionForm :=
  [⟨["config"], true⟩, ⟨["verbose", "debug"], false⟩]

/-- The names of the options for the inputs of a command. -/
def inputNames : List String :=
  ["schema", "data", "context", "env"]

/-- The options of a command by its name. -/
def formsOf? : String → Option (List OptionForm)
  | "steps" => some (forms inputNames [])
  | "fields" | "prev" => some (forms (inputNames ++ ["step"]) [])
  | "next" => some (forms (inputNames ++ ["step"]) ["no-review-terminal"])
  | "path" => some (forms (inputNames ++ ["from", "to", "max-steps"]) [])
  | "compute" => some (forms (inputNames ++ ["changed"]) ["write"])
  | "check" => some (forms ["schema"] ["json"])
  | _ => none

/-- The options that are given, with their values; a switch has the empty value. -/
abbrev Given := List (String × String)

/-- The name of an option and the value behind an equals sign, if there is one. -/
def splitOption? (argument : String) : Option (String × Option String) :=
  match argument.toList with
  | '-' :: '-' :: first :: rest =>
    let name := (first :: rest).takeWhile (· != '=')
    let behind := (first :: rest).drop name.length
    some (String.ofList name, behind.head?.map fun _ => String.ofList behind.tail)
  | _ => none

/-- The argument is a hyphen with more behind it, which no value is. -/
def isHyphenated (argument : String) : Bool :=
  match argument.toList with
  | '-' :: _ :: _ => true
  | _ => false

/-- Adds an option to those that are given. None is given twice. -/
def add (name value : String) (given : Given) : Except UsageError Given :=
  if (given.lookup name).isSome then .error (.repeated name) else .ok (given ++ [(name, value)])

/-- Takes options off the front of the arguments. What is left starts with an argument that is no
option.
-/
def takeOptions (known : List OptionForm) (given : Given)
    : List String → Except UsageError (Given × List String)
  | [] => .ok (given, [])
  | argument :: rest =>
    match splitOption? argument with
    | none =>
      if isHyphenated argument then .error (.unexpected argument)
      else .ok (given, argument :: rest)
    | some (written, inner) =>
      match known.find? (·.names.contains written) with
      | none => .error (.unexpected argument)
      | some form =>
        let name := form.names.headD written
        match form.hasValue, inner, rest with
        | false, none, rest => do takeOptions known (← add name "" given) rest
        | false, some _, _ => .error (.needlessValue name)
        | true, some value, rest => do takeOptions known (← add name value given) rest
        | true, none, [] => .error (.missingValue name)
        | true, none, value :: rest =>
          if isHyphenated value then .error (.missingValue name)
          else do takeOptions known (← add name value given) rest

/-- The value of an option that must be given. -/
def required (name : String) (given : Given) : Except UsageError String :=
  match given.lookup name with
  | some value => .ok value
  | none => .error (.missing name)

/-- The value of an option as a count. -/
def count? (name : String) (given : Given) : Except UsageError (Option Nat) :=
  match given.lookup name with
  | none => .ok none
  | some value =>
    match Text.natural? value.toList with
    | some count => .ok (some count)
    | none => .error (.noCount name value)

/-- Whether a switch is given. -/
def isGiven (name : String) (given : Given) : Bool :=
  (given.lookup name).isSome

/-- The inputs of a command. -/
def inputs (given : Given) : Except UsageError Inputs := do
  return {
    schema := ← required "schema" given
    data := given.lookup "data"
    context := given.lookup "context"
    environment := given.lookup "env" }

/-- The command of a name with its options. Writing the data back takes a file of data. -/
def Command.ofOptions (name : String) (given : Given) : Except UsageError Command := do
  match name with
  | "steps" => return .steps (← inputs given)
  | "fields" => return .fields (← inputs given) (← required "step" given)
  | "next" =>
    return .next (← inputs given) (← required "step" given)
      (isGiven "no-review-terminal" given)
  | "prev" => return .previous (← inputs given) (← required "step" given)
  | "path" =>
    return .path (← inputs given) (← required "from" given) (← required "to" given)
      (← count? "max-steps" given)
  | "compute" =>
    let inputs ← inputs given
    if isGiven "write" given && inputs.data.isNone then throw (.missing "data")
    return .compute inputs (given.lookup "changed") (isGiven "write" given)
  | "check" => return .check (← required "schema" given) (isGiven "json" given)
  | _ => throw (.unknownCommand name)

/-- Reads the arguments: a command, with its options behind it and the options of all commands on
either side.
-/
def Invocation.ofArguments (arguments : List String) : Except UsageError Invocation := do
  let (before, rest) ← takeOptions globalForms [] arguments
  match rest with
  | [] => throw .noCommand
  | name :: rest =>
    match formsOf? name with
    | none => throw (.unknownCommand name)
    | some forms =>
      let (behind, rest) ← takeOptions (globalForms ++ forms) [] rest
      match rest with
      | argument :: _ => throw (.unexpected argument)
      | [] =>
        return {
          config := (behind.lookup "config").or (before.lookup "config")
          command := ← Command.ofOptions name behind }

end FormWizard.CommandLine
