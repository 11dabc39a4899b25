import OneHost.Http.Status
import OneHost.Session.Basic

/-!
# Commands

What a person asks a session for: the health of the endpoints, the addresses of the host, what is at
a path, or the health again and again. A command prints to two streams, and may fail after it has
printed something.
-/

namespace OneHost

/-- What is asked for. The seconds between two reports may be left open. -/
inductive Command where
  | check
  | resolve
  | get (path : String) (withHead : Bool)
  | watch (seconds : Option Nat)
  deriving DecidableEq

/-- What has been printed: the answer, and what is said about it. -/
structure Printed where
  output : String := ""
  remarks : String := ""
  deriving DecidableEq

namespace Printed

/-- The lines of a text. A carriage return before the end of a line belongs to the end. -/
def lines (text : String) : List String :=
  let pieces := Text.split '\n' text.toList
  let pieces := if pieces.getLast? = some [] then pieces.dropLast else pieces
  pieces.map fun piece =>
    String.ofList (if piece.getLast? = some '\r' then piece.dropLast else piece)

/-- A response as it is printed: in front of the body, its head or only its status as a remark. -/
def ofResponse (response : Http.Response) (withHead : Bool) : Printed :=
  let body := String.ofList (Text.decodeLossy response.body)
  let status := Http.statusText response.status
  if withHead then
    let field (name : String) (value : Bytes) : String :=
      let isVisible (byte : UInt8) : Bool := (32 ≤ byte && byte < 127) || byte = 9
      let text := if value.all isVisible then (Text.decode? value).getD "" else "<binary>"
      name ++ ": " ++ text ++ "\n"
    { output := response.version.text ++ " " ++ status ++ "\n" ++
        String.join (response.headers.toList.map fun (name, value) => field name value) ++
        "\n" ++ body }
  else { output := body, remarks := status ++ "\n" }

end Printed

namespace Session

variable {σ : Type}

/-- The report on the endpoints as it is printed. -/
def report (session : Session σ) : String :=
  session.check.text session.settings.hostname

/-- The seconds between two reports: the pool's own period, if none are given. -/
def interval (session : Session σ) (seconds : Option Nat) : Nat :=
  seconds.getD session.settings.refreshPeriod.toNat

/-- The session some seconds later. -/
def later (session : Session σ) (seconds : Nat) : Session σ :=
  { session with world := session.world.advance (seconds * 1000) }

/-- Print a report every so many seconds until at least so many lines are printed. The first
argument bounds the number of reports. -/
def reports (seconds lines : Nat) : Nat → String → Session σ → String × Session σ
  | 0, printed, session => (printed, session)
  | bound + 1, printed, session =>
    let printed := printed ++ session.report
    if lines ≤ (Printed.lines printed).length then (printed, session)
    else reports seconds lines bound printed (session.later seconds)

/-- Do what is asked for. A watch ends once so many lines are printed. -/
def perform (session : Session σ) (lines : Nat) :
    Command → Except SessionError Unit × Printed × Session σ
  | .check =>
    let report := session.check
    let printed : Printed := { output := session.report }
    match report.status with
    | .error => (.error (.noHealthyEndpoint session.settings.hostname), printed, session)
    | _ => (.ok (), printed, session)
  | .resolve =>
    match session.resolve with
    | (.error error, session) => (.error error, {}, session)
    | (.ok [], session) =>
      (.ok (), { output := session.settings.hostname ++ ": no addresses\n" }, session)
    | (.ok addresses, session) =>
      (.ok (), { output := String.join (addresses.map fun ip => ip.text ++ "\n") }, session)
  | .get path withHead =>
    match session.get path with
    | (.error error, session) => (.error error, {}, session)
    | (.ok response, session) => (.ok (), .ofResponse response withHead, session)
  | .watch seconds =>
    match session.interval seconds with
    | 0 => (.error .noInterval, {}, session)
    | seconds + 1 =>
      let (output, session) := session.reports (seconds + 1) lines (lines + 1) ""
      (.ok (), { output }, session.shutDown)

end Session

end OneHost
