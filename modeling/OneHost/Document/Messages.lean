import OneHost.Document.Basic
import OneHost.Http.Edit
import OneHost.Http.Target
import OneHost.Timeline.Script

/-!
# Requests and responses as documents

What a request or a response consists of, field by field, and how a request, an edit or the
behaviour of a scripted server is read from a document.
-/

namespace OneHost

open Document (natural array object bytes)

/-- The fields of some headers, one for each value. -/
def Http.Headers.document (headers : Headers) : Document :=
  array (headers.toList.map fun (name, value) => array [.text name, bytes value])

/-- The parts of a request. -/
def Http.Request.fields (request : Request) : List (String × Document) :=
  [("method", .text request.method), ("uri", .text request.uri.text),
    ("version", .text request.version.text), ("headers", request.headers.document),
    ("body", bytes request.body)]

/-- The parts of a response. -/
def Http.Response.document (response : Response) : Document :=
  object [("status", natural response.status), ("headers", response.headers.document),
    ("body", bytes response.body)]

/-- The parts of a URI. -/
def Http.Uri.document (uri : Uri) : Document :=
  object [("uri", .text uri.text), ("path", .text uri.path),
    ("query", Document.option .text uri.query), ("host", Document.option .text uri.host?),
    ("port", Document.option natural uri.port?)]

/-- What is known of a target, with the socket address behind an address. -/
def Http.Target.document (target : Target) (ip : Ip) : Document :=
  object [("hostname", .text target.hostname), ("port", natural target.port.toNat),
    ("protocol", .text target.protocol.scheme), ("host_header", .text target.hostHeader),
    ("socket_addr", .text (target.socketAddress ip).text)]

/-- What is known of a protocol. -/
def Protocol.document (protocol : Protocol) : Document :=
  object [("display", .text protocol.scheme), ("scheme", .text protocol.scheme),
    ("default_port", natural protocol.defaultPort.toNat),
    ("tls", Document.truth protocol.isEncrypted)]

namespace Document

/-- A name with a value. -/
def asPair : Document → Except String (String × String)
  | .list _ [name, value] => do return (← name.asText, ← value.asText)
  | _ => .error "not a pair"

/-- An internet address. -/
def asIp (document : Document) : Except String Ip := do
  match Ip.parse? (← document.asText) with
  | some ip => .ok ip
  | none => .error "not an address"

/-- A socket address. -/
def asSocket (document : Document) : Except String SocketAddress := do
  match SocketAddress.parse? (← document.asText) with
  | some address => .ok address
  | none => .error "not a socket address"

/-- A request, unless its parts make none. -/
def asRequest (document : Document) : Except String (Except Http.RequestError Http.Request) := do
  return Http.Request.build (← document.textOr "method" "GET") (← document.textOr "uri" "/")
    (← document.listAt "headers" asPair) (Text.encode (← document.textOr "body" ""))

/-- The edits that one mapping asks for, in a fixed order. -/
def asEdits (document : Document) : Except String (List Http.Edit) := do
  let pair (make : String × String → Http.Edit) (name : String) : Except String (List Http.Edit) :=
    return (← document.at? name asPair).toList.map make
  let text (make : String → Http.Edit) (name : String) : Except String (List Http.Edit) :=
    return (← document.at? name asText).toList.map make
  return [← pair (fun (name, value) => .setHeader name value) "set_header",
    ← pair (fun (name, value) => .appendHeader name value) "append_header",
    ← text .setUri "set_uri", ← text .setMethod "set_method",
    ← text (fun body => .setBody (Text.encode body)) "set_body"].flatten

/-- The edits that a list of mappings asks for. -/
def asEditList (document : Document) : Except String (List Http.Edit) := do
  return (← (← document.asList).mapM asEdits).flatten

/-- The version of a request. -/
def asVersion (document : Document) : Except String Http.Version := do
  match ← document.asText with
  | "0.9" => .ok .http09
  | "1.0" => .ok .http10
  | "1.1" => .ok .http11
  | "2" => .ok .http2
  | "3" => .ok .http3
  | _ => .error "not a version"

/-- The failure of an exchange, before it is known with which address. -/
def asFault (document : Document) : Except String Timeline.Fault := do
  let timeout : Except String Duration := do
    match ← document.at? "timeout_ns" asNat with
    | some nanoseconds => return ⟨nanoseconds⟩
    | none => return .ofMilliseconds (← document.natOr "timeout_ms" 50)
  match ← document.textAt "fail" with
  | "connect_timeout" => return .connectTimeout (← timeout)
  | "connect" => return .connect (← document.textOr "message" "io failed")
  | "tls" => return .tls (← document.textOr "message" "io failed")
  | "read_timeout" => return .readTimeout (← timeout)
  | "server_name" => return .serverName (← document.textOr "message" "")
  | "request" =>
    match Http.requestUri (← document.textOr "message" "") with
    | .error error => return .request error
    | .ok _ => .error "a URI without fault"
  | _ => .error "not a failure"

/-- What a scripted server does with a request. -/
def asBehaviour (document : Document) : Except String Timeline.Behaviour := do
  let delay ← document.natOr "delay_ms" 0
  if (document.field? "fail").isSome then return { delay, reply := .error (← document.asFault) }
  else
    let fields ← document.listAt "headers" asPair
    let headers := (Http.Headers.empty.appendAll fields).toOption.getD .empty
    let status ← document.natOr "status" 200
    let body := Text.encode (← document.textOr "body" "scripted")
    return { delay, reply := .ok { status, headers, body } }

/-- What each of some scripted servers does. -/
def asScript (document : Document) : Except String Timeline.Script := do
  (← document.asFields).foldlM (fun script (name, behaviours) => do
    let address ← (Document.text name).asSocket
    return script.set address (← (← behaviours.asList).mapM asBehaviour)) {}

end Document

end OneHost
