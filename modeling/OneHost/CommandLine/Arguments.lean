import OneHost.CommandLine.Interface
import OneHost.Session.Command

/-!
# Reading the arguments

Arguments are read from the left. A value that stands apart from its option is looked at when the
next argument has turned out to be one that is known; so of two faults, an unknown argument is
reported before the bad value in front of it. Behind two bare dashes nothing is an option.
-/

namespace OneHost.CommandLine

/-- Why arguments are refused. -/
inductive Refusal where
  | unexpected (argument : String)
  | unexpectedValue (value : String) (flag : Flag)
  | missingValue (flag : Flag)
  | invalidValue (value : String) (flag : Flag) (reason : String)
  | repeated (flag : Flag)
  | unknownVerb (word : String)
  | missingOperand (operand : String)
  | missingVerb
  | nothingAsked
  deriving DecidableEq

/-- The text of the refusal. Who asks for nothing is shown what can be asked for. -/
def Refusal.text : Refusal → String
  | unexpected argument => "error: unexpected argument '" ++ argument ++ "' found\n"
  | unexpectedValue value flag =>
    "error: unexpected value '" ++ value ++ "' for '" ++ flag.usage ++
      "' found; no more were expected\n"
  | missingValue flag =>
    "error: a value is required for '" ++ flag.usage ++ "' but none was supplied\n"
  | invalidValue value flag reason =>
    "error: invalid value '" ++ value ++ "' for '" ++ flag.usage ++ "': " ++ reason ++ "\n"
  | repeated flag =>
    "error: the argument '" ++ flag.usage ++ "' cannot be used multiple times\n"
  | unknownVerb word => "error: unrecognized subcommand '" ++ word ++ "'\n"
  | missingOperand operand =>
    "error: the following required arguments were not provided:\n  <" ++ operand ++ ">\n"
  | missingVerb =>
    "error: '" ++ programName ++ "' requires a subcommand but one was not provided\n"
  | nothingAsked => programHelp

/-- What is read at one level: before the verb, or behind it. -/
structure Level where
  flags : List Flag
  verb : Option Verb := none

/-- What has been read of a level: the options with their values, an option whose value is still to
come or to be looked at, and the operand. -/
structure Gathered where
  values : List (Flag × String) := []
  pending : Option (Flag × Option String) := none
  operand : Option String := none
  trailing : Bool := false

/-- How the reading of a level ends. -/
inductive Ending where
  | done
  | verb (verb : Verb) (rest : List String)
  | help
  | version

/-- Whether a value can be that of an option. -/
def Flag.check (flag : Flag) (value : String) : Except Refusal Unit :=
  match flag.least with
  | none => .ok ()
  | some least =>
    let greatest := UInt64.size - 1
    match Text.readNumber greatest value with
    | .error error => .error (.invalidValue value flag error.message)
    | .ok number =>
      if least ≤ number then .ok ()
      else
        .error (.invalidValue value flag
          (Text.decimal number ++ " is not in " ++ Text.decimal least ++ ".." ++
            Text.decimal greatest))

namespace Gathered

/-- Add an option with its value. -/
def add (gathered : Gathered) (flag : Flag) (value : String) : Except Refusal Gathered := do
  if gathered.values.any (·.1 = flag) then .error (.repeated flag)
  else
    flag.check value
    return { gathered with values := gathered.values ++ [(flag, value)] }

/-- Look at the option that was left to be looked at. -/
def settle (gathered : Gathered) : Except Refusal Gathered :=
  match gathered.pending with
  | none => .ok gathered
  | some (flag, none) => .error (.missingValue flag)
  | some (flag, some value) => { gathered with pending := none }.add flag value

/-- The value of an option. -/
def value? (gathered : Gathered) (flag : Flag) : Option String :=
  gathered.values.lookup flag

/-- Read a switch. -/
def switch (gathered : Gathered) (flag : Flag) : Except Refusal (Gathered × Option Ending) := do
  let gathered ← gathered.settle
  if flag = helpFlag then return (gathered, some .help)
  else if flag = versionFlag then return (gathered, some .version)
  else return (← gathered.add flag "", none)

/-- Read an option by its long name. -/
def long (level : Level) (gathered : Gathered) (text : List Char) :
    Except Refusal (Gathered × Option Ending) := do
  let (name, value) := match Text.splitOnce? '=' text with
    | some (name, value) => (String.ofList name, some (String.ofList value))
    | none => (String.ofList text, none)
  match level.flags.find? (·.long = name), value with
  | none, _ => .error (.unexpected ("--" ++ name))
  | some flag, some value =>
    if flag.value.isNone then .error (.unexpectedValue value flag)
    else return (← (← gathered.settle).add flag value, none)
  | some flag, none =>
    if flag.value.isNone then gathered.switch flag
    else return ({ ← gathered.settle with pending := some (flag, none) }, none)

/-- Read switches by their letters. -/
def letters (level : Level) (gathered : Gathered) :
    List Char → Except Refusal (Gathered × Option Ending)
  | [] => .ok (gathered, none)
  | letter :: rest => do
    match level.flags.find? (·.short = some letter) with
    | none => .error (.unexpected (String.ofList ['-', letter]))
    | some flag =>
      match ← gathered.switch flag with
      | (gathered, none) => letters level gathered rest
      | (gathered, ending) => return (gathered, ending)

/-- Read the operand of a verb. -/
def word (level : Level) (gathered : Gathered) (text : String) : Except Refusal Gathered := do
  let isWanted := (level.verb.bind (·.operand)).isSome && gathered.operand.isNone
  if isWanted then return { ← gathered.settle with operand := some text }
  else if level.verb.isSome || (verb? text).isSome then .error (.unexpected text)
  else .error (.unknownVerb text)

/-- Read the arguments of a level. -/
def read (level : Level) (gathered : Gathered) :
    List String → Except Refusal (Gathered × Ending)
  | [] => .ok (gathered, .done)
  | argument :: rest => do
    if gathered.trailing then read level (← gathered.word level argument) rest
    else
      let step (result : Gathered × Option Ending) : Except Refusal (Gathered × Ending) :=
        match result with
        | (gathered, none) => read level gathered rest
        | (gathered, some ending) => .ok (gathered, ending)
      match argument.toList with
      | ['-', '-'] => read level { gathered with trailing := true } rest
      | '-' :: '-' :: text => step (← gathered.long level text)
      | '-' :: letter :: letters => step (← gathered.letters level (letter :: letters))
      | _ =>
        match gathered.pending, level.verb, verb? argument with
        | some (flag, none), _, _ =>
          read level { gathered with pending := some (flag, some argument) } rest
        | _, none, some verb => return (gathered, .verb verb rest)
        | _, _, _ => read level (← gathered.word level argument) rest

end Gathered

/-- What the arguments ask for: a command under some settings, or a text to be printed. -/
inductive Invocation where
  | run (command : Command) (settingsFile : Option String)
  | print (text : String)
  deriving DecidableEq

/-- The command that a verb with its options and its operand stands for. -/
def commandOf (verb : Verb) (gathered : Gathered) : Except Refusal Command :=
  match verb.operand, gathered.operand with
  | some (operand, _), none => .error (.missingOperand operand)
  | _, operand =>
    match verb.name with
    | "check" => .ok .check
    | "resolve" => .ok .resolve
    | "get" => .ok (.get (operand.getD "") (gathered.value? includeFlag).isSome)
    | _ =>
      let seconds := (gathered.value? everyFlag).bind fun value =>
        (Text.readNumber (UInt64.size - 1) value).toOption
      .ok (.watch seconds)

/-- The help for the verbs that some words name, one within the other. -/
def helpFor : List String → Except Refusal String
  | [] => .ok programHelp
  | [word] =>
    match verb? word with
    | some verb => .ok verb.help
    | none => .error (.unknownVerb word)
  | word :: other :: _ => .error (.unknownVerb (if (verb? word).isSome then other else word))

/-- Read what stands behind a verb. -/
def readVerb (before : Gathered) (verb : Verb) (arguments : List String) :
    Except Refusal Invocation := do
  if verb = helpVerb then return .print (← helpFor arguments)
  else
    let level : Level := { flags := merged verb.flags ++ [helpFlag], verb := some verb }
    match ← Gathered.read level {} arguments with
    | (_, .help) => return .print verb.help
    | (gathered, _) =>
      let gathered ← gathered.settle
      let command ← commandOf verb gathered
      let before ← before.settle
      let file := gathered.value? configFlag
      return .run command (file.or (before.value? configFlag))

/-- Read all arguments. -/
def read (arguments : List String) : Except Refusal Invocation := do
  let level : Level := { flags := sharedFlags ++ [helpFlag, versionFlag] }
  match ← Gathered.read level {} arguments with
  | (_, .help) => return .print programHelp
  | (_, .version) => return .print (programName ++ " " ++ programVersion ++ "\n")
  | (before, .verb verb rest) => readVerb before verb rest
  | (before, .done) =>
    let before ← before.settle
    .error (if before.values.isEmpty then .nothingAsked else .missingVerb)

end OneHost.CommandLine
