import OneHost.Health.Report

/-!
# What can be said on a command line

The program has verbs and options. Options may stand before the verb, and those that all verbs share
also behind it. The same description serves for reading arguments and for the help that is printed.
-/

namespace OneHost.CommandLine

/-- An option: a switch, or one with a value whose name is shown in capitals. A value may have to be
a number that is not below `least`. -/
structure Flag where
  long : String
  short : Option Char := none
  value : Option String := none
  least : Option Nat := none
  default : Option String := none
  help : String
  deriving DecidableEq

/-- Something that the program can be told to do. It may need one operand. -/
structure Verb where
  name : String
  about : String
  flags : List Flag := []
  operand : Option (String × String) := none
  deriving DecidableEq

/-- An option with the name of its value. -/
def Flag.usage (flag : Flag) : String :=
  "--" ++ flag.long ++ (flag.value.elim "" fun name => " <" ++ name ++ ">")

/-- The program's name. -/
def programName : String := "hostpool"

/-- The program's version. -/
def programVersion : String := "0.1.0"

/-- What the program is. -/
def programAbout : String := "Health-checked, DNS-driven HTTP client for one hostname"

/-- The file with the settings. -/
def configFlag : Flag :=
  { long := "config", value := some "CONFIG"
    help := "Config file path (YAML); falls back to HOSTPOOL_* environment variables" }

/-- How much is logged. -/
def logLevelFlag : Flag :=
  { long := "log-level", value := some "LOG_LEVEL", default := some "info"
    help := "Log level (error, warn, info, debug, trace)" }

/-- Whether the head of a response is printed. -/
def includeFlag : Flag :=
  { long := "include", short := some 'i', help := "Print status line and response headers" }

/-- The seconds between two reports. -/
def everyFlag : Flag :=
  { long := "every", value := some "EVERY", least := some 1
    help := "Seconds between reports (defaults to the DNS refresh period)" }

def helpFlag : Flag := { long := "help", short := some 'h', help := "Print help" }
def versionFlag : Flag := { long := "version", short := some 'V', help := "Print version" }

/-- The options that all verbs share. -/
def sharedFlags : List Flag := [configFlag, logLevelFlag]

/-- The verbs. -/
def verbs : List Verb :=
  [{ name := "check"
     about := "Print pool health (OK, WARNING or ERROR) with per-endpoint detail" },
    { name := "resolve", about := "Print the addresses the hostname currently resolves to" },
    { name := "get", about := "GET a path through the pool", flags := [includeFlag]
      operand := some ("PATH", "Path and query, e.g. /status?verbose=1") },
    { name := "watch", about := "Print the health report periodically until Ctrl-C"
      flags := [everyFlag] }]

/-- The verb that asks for help. -/
def helpVerb : Verb :=
  { name := "help", about := "Print this message or the help of the given subcommand(s)"
    operand := some ("COMMAND", "Print help for the subcommand(s)") }

/-- The verb of a name. -/
def verb? (name : String) : Option Verb :=
  (verbs ++ [helpVerb]).find? (·.name = name)

/-! ## Help -/

/-- Lines of two columns. -/
def columns (entries : List (String × String)) : String :=
  let width := (entries.map (·.1.length)).foldl max 0
  String.join (entries.map fun (left, right) =>
    "  " ++ Health.Report.padded width left ++ "  " ++ right ++ "\n")

/-- An option as it stands in a list. -/
def Flag.entry (flag : Flag) : String × String :=
  ((flag.short.elim "    " fun short => String.ofList ['-', short, ',', ' ']) ++ flag.usage,
    flag.help ++ flag.default.elim "" fun value => " [default: " ++ value ++ "]")

/-- What options that come at the same place in their lists are ordered by. -/
def Flag.key (flag : Flag) : String :=
  flag.short.elim flag.long fun short => String.ofList [short.toLower, '0']

/-- The options of a verb among the shared ones: by their places in their lists. -/
def merged (flags : List Flag) : List Flag :=
  let placed := (flags.mapIdx fun place flag => (place, flag)) ++
    sharedFlags.mapIdx fun place flag => (place, flag)
  (placed.mergeSort fun left right =>
    left.1 < right.1 || (left.1 = right.1 && left.2.key ≤ right.2.key)).map (·.2)

/-- The help for the program. -/
def programHelp : String :=
  programAbout ++ "\n\nUsage: " ++ programName ++ " [OPTIONS] <COMMAND>\n\nCommands:\n" ++
    columns ((verbs ++ [helpVerb]).map fun verb => (verb.name, verb.about)) ++
    "\nOptions:\n" ++ columns ((sharedFlags ++ [helpFlag, versionFlag]).map Flag.entry)

/-- The help for a verb. -/
def Verb.help (verb : Verb) : String :=
  if verb = helpVerb then
    verb.about ++ "\n\nUsage: " ++ programName ++ " help [COMMAND]...\n\nArguments:\n" ++
      columns (verb.operand.toList.map fun (operand, help) => ("[" ++ operand ++ "]...", help))
  else
    verb.about ++ "\n\nUsage: " ++ programName ++ " " ++ verb.name ++ " [OPTIONS]" ++
      (verb.operand.elim "" fun (operand, _) => " <" ++ operand ++ ">") ++ "\n\n" ++
      (verb.operand.elim "" fun (operand, help) =>
        "Arguments:\n" ++ columns [("<" ++ operand ++ ">", help)] ++ "\n") ++
      "Options:\n" ++ columns ((merged verb.flags ++ [helpFlag]).map Flag.entry)

end OneHost.CommandLine
