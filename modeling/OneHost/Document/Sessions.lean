import OneHost.Document.Messages
import OneHost.Document.Settings
import OneHost.Loopback.Link
import OneHost.Session.Command

/-!
# Sessions and servers as documents

The failures of a session, what a command printed, and how a server in memory is read from a
document.
-/

namespace OneHost

open Document (truth array texts object)

/-- A mapping with one more field. -/
def Document.withField (document : Document) (name : String) (value : Document) : Document :=
  match document with
  | .mapping tag entries => .mapping tag ((.text name, value) :: entries)
  | other => other

/-- Why a session fails. Causes of a known kind are shown as such. -/
def SessionError.document (error : SessionError) : Document :=
  let within (cause : Document) : Document :=
    cause.withField "context" (.text error.summary)
  match error with
  | load error => error.document
  | settings error => within error.document
  | roots error | client error => within error.document
  | channel error => within error.document
  | pool _ error | lookup _ error => within error.document
  | exchange _ _ error => within error.document
  | path .. | noHealthyEndpoint _ | noInterval => Document.failure "Error" error.message

/-- The lines of a text. Those of a report after the first are sorted, since its order means
nothing. -/
def Printed.shownLines (text : String) : List String :=
  match lines text with
  | first :: rest =>
    if rest.all fun line => "  ".toList.isPrefixOf line.toList then
      first :: rest.mergeSort (· ≤ ·)
    else first :: rest
  | [] => []

/-- What a command printed and how it ended. -/
def Printed.document (printed : Printed) (result : Except SessionError Unit) : Document :=
  object [("stdout", texts (shownLines printed.output)),
    ("stderr", texts (shownLines printed.remarks)),
    ("status", Document.outcome SessionError.document (fun _ => .text "ok") result)]

/-- A request that came in. -/
def Loopback.Visit.document (visit : Visit) : Document :=
  object [("ip", .text visit.ip.text), ("head", texts visit.head),
    ("body", Document.bytes visit.body)]

namespace Document

/-- The bytes of a text, or those of the hexadecimal digits in the field for them. -/
def asBytes (document : Document) : Except String Bytes :=
  match document with
  | .mapping .. => do ofHex (← document.textAt "hex").toList
  | _ => return Text.encode (← document.asText)

/-- A certificate and whether its issuer is trusted. -/
def asIssued (document : Document) : Except String Trust.Issued := do
  return {
    content :=
      { domains := ← document.listAt "sans" asText, addresses := ← document.listAt "ip_sans" asIp
        subjectName := ← document.at? "cn" asText
        notBefore := ← document.natOr "not_before" 2000
        notAfter := ← document.natOr "not_after" 2100 }
    trusted := ← document.boolOr "trusted" true }

/-- When a server hangs up. -/
def asHangUp (document : Document) : Except String Loopback.HangUp :=
  match document.asBool with
  | .ok told => return if told then .whenTold else .never
  | .error _ => return if (← document.asText) = "now" then .atOnce else .never

/-- What a server does with some requests. -/
def asRoute (document : Document) : Except String Loopback.Route := do
  let default : Loopback.Route := {}
  return {
    path := ← document.at? "path" asText, ip := ← document.at? "ip" asIp
    uses := ← document.at? "times" asNat, status := ← document.natOr "status" default.status
    fields := ← document.listAt "headers" asPair
    body := ← document.getOr "body" asBytes default.body
    raw := ← document.at? "raw" asBytes
    hangUp := ← document.getOr "close" asHangUp .never }

/-- A server that listens at some port. -/
def asServer (port : UInt16) (document : Document) : Except String Loopback.Server := do
  return {
    port
    listen := ← document.getOr "listen" (fun list => do (← list.asList).mapM asIp)
      [.v4 ⟨127, 0, 0, 1⟩]
    routes := ← document.listAt "routes" asRoute
    certificate := ← document.at? "tls" asIssued
    full := ← document.boolOr "full" false }

end Document

end OneHost
