import OneHost.CommandLine.Run

/-!
# The program

The outer layer of the command line: it collects the environment and the files that a run may read,
and prints what the run prints. It opens no sockets, so whoever is dialled cannot be reached.
-/

namespace OneHost.CommandLine

/-- What a program without a network is told when it dials. -/
def unreachable : Connection.Peers Unit
  | .dial id _, peer => ([.connectFailed id "Network is unreachable (os error 101)"], peer)
  | _, peer => ([], peer)

/-- The environment in the form in which the system keeps it: every variable ends with a zero byte,
and its name is all before the first `=`. -/
def environmentOfBytes (bytes : Bytes) : Environment :=
  ⟨(Text.split 0 bytes).map fun entry =>
    let name := entry.takeWhile (· ≠ 61)
    (String.ofList (Text.decodeLossy name), entry.drop (name.length + 1))⟩

/-- Why the system does not give a file. -/
def fileError : IO.Error → FileError
  | .noFileOrDirectory .. => .notFound
  | .inappropriateType .. => .isFolder
  | .permissionDenied .. => .notPermitted
  | error => .other (toString error)

/-- Read a file. -/
def readFile (path : String) : IO (Except FileError Bytes) := do
  match ← (IO.FS.readBinFile path).toBaseIO with
  | .ok content => return .ok content.toList
  | .error error => return .error (fileError error)

/-- The files at some paths. -/
def readFiles (paths : List String) : IO Folder := do
  let files ← paths.mapM fun path => return (path, ← readFile path)
  return { read := fun path => (files.lookup path).getD (.error .notFound) }

/-- The paths that a run may read, as far as they are known before any file has been read. -/
def namedPaths (arguments : List String) : List String :=
  match read arguments with
  | .ok (.run _ (some path)) => [path]
  | .ok (.run _ none) => [environmentPath]
  | _ => []

/-- The paths that the settings of a run name. -/
def trustPaths (environment : Environment) (folder : Folder) (arguments : List String) :
    List String :=
  match read arguments with
  | .ok (.run _ file) =>
    match loadSettings environment folder file with
    | .ok settings => settings.trust.caFile.toList
    | .error _ => []
  | _ => []

/-- Print what a run printed. -/
def put (printed : Printed) : IO Unit := do
  IO.print printed.output
  (← IO.getStdout).flush
  IO.eprint printed.remarks

/-- Print a report every so many seconds. -/
partial def watch {σ : Type} (seconds : Nat) (session : Session σ) : IO Unit := do
  put { output := session.report }
  for _ in List.range seconds do
    IO.sleep 1000
  watch seconds (session.later seconds)

end OneHost.CommandLine

open OneHost CommandLine in
/-- Carry out the arguments, and end with the status of the run. -/
def main (arguments : List String) : IO UInt32 := do
  let environment := environmentOfBytes
    (match ← readFile "/proc/self/environ" with
      | .ok content => content
      | .error _ => [])
  let named ← readFiles (namedPaths arguments)
  let trusted := trustPaths environment named arguments
  let folder ← readFiles (namedPaths arguments ++ trusted)
  match prepare (Session.start unreachable () fun _ _ _ => .error (.certificate .unknownIssuer))
      environment folder arguments with
  | .ended ended =>
    put ended.printed
    return UInt32.ofNat ended.status
  | .ready (.watch seconds) session =>
    match session.interval seconds with
    | 0 =>
      let (ended, _) := finish 1 (.watch seconds) session
      put ended.printed
      return UInt32.ofNat ended.status
    | interval =>
      watch interval session
      return 0
  | .ready command session =>
    let (ended, _) := finish 1 command session
    put ended.printed
    return UInt32.ofNat ended.status
