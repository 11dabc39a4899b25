import OneHost.CommandLine.Arguments

/-!
# Running a command line

Arguments are read, settings are loaded from the file that they name or else from the environment, a
session is set up, and the command is carried out. What goes wrong on the way is told where remarks
are printed, and the status with which the program ends says how far it came.
-/

namespace OneHost.CommandLine

/-- What a run printed, and the status with which it ended. -/
structure Ended where
  status : Nat
  printed : Printed
  deriving DecidableEq

/-- The text of a failure with its causes, from the last thing that was attempted. -/
def failureText (messages : List String) : String :=
  let causes := match messages.drop 1 with
    | [] => ""
    | [cause] => "\nCaused by:\n    " ++ cause ++ "\n"
    | causes => "\nCaused by:\n" ++ String.join (causes.mapIdx fun place cause =>
        "    " ++ Text.decimal place ++ ": " ++ cause ++ "\n")
  "Error: " ++ messages.headD "" ++ "\n" ++ causes

/-- The end of a run that failed after it had printed something. -/
def Ended.failed (printed : Printed) (error : SessionError) : Ended :=
  { status := 1
    printed := { printed with remarks := printed.remarks ++ failureText error.messages } }

/-- The file that adds to the environment. -/
def environmentPath : String := ".env"

/-- Load the settings that a run is for. -/
def loadSettings (environment : Environment) (folder : Folder) (file : Option String) :
    Except LoadError Settings :=
  match file with
  | some path => Settings.ofFile path (folder.read path).toOption
  | none =>
    Settings.ofSurroundings environment ((folder.read environmentPath).toOption.map fun bytes =>
      String.ofList (Text.decodeLossy bytes))

/-- What a command line comes to: the run is over, or a session has been set up for a command. -/
inductive Prepared (σ : Type) where
  | ended (ended : Ended)
  | ready (command : Command) (session : Session σ)

/-- Read a command line and set up the session that it asks for. -/
def prepare {σ : Type} (start : Folder → Settings → Except SessionError (Session σ))
    (environment : Environment) (folder : Folder) (arguments : List String) : Prepared σ :=
  match read arguments with
  | .error refusal => .ended { status := 2, printed := { remarks := refusal.text } }
  | .ok (.print text) => .ended { status := 0, printed := { output := text } }
  | .ok (.run command file) =>
    match (loadSettings environment folder file).mapError SessionError.load >>= start folder with
    | .error error => .ended (.failed {} error)
    | .ok session => .ready command session

/-- Carry out a command and end its session. A watch is interrupted once so many lines are
printed. -/
def finish {σ : Type} (lines : Nat) (command : Command) (session : Session σ) :
    Ended × Session σ :=
  match session.perform lines command with
  | (.ok (), printed, session) => ({ status := 0, printed }, session.shutDown)
  | (.error error, printed, session) => (.failed printed error, session.shutDown)

/-- Carry out a command line, where `start` sets up a session in the world that there is. -/
def run {σ : Type} (start : Folder → Settings → Except SessionError (Session σ))
    (environment : Environment) (folder : Folder) (lines : Nat) (arguments : List String) :
    Ended × Option (Session σ) :=
  match prepare start environment folder arguments with
  | .ended ended => (ended, none)
  | .ready command session =>
    let (ended, session) := finish lines command session
    (ended, some session)

end OneHost.CommandLine
