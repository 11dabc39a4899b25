import OneHost.Http.Headers
import OneHost.Http.Uri

/-!
# Requests and responses

Messages are whole values: the body is part of them. A request is built from texts by
`Request.build`, which reports the first part that is not well-formed.
-/

namespace OneHost.Http

/-- The versions of the protocol that a request can name. -/
inductive Version where
  | http09
  | http10
  | http11
  | http2
  | http3
  deriving DecidableEq, Inhabited

/-- The text of a version. -/
def Version.text : Version → String
  | http09 => "HTTP/0.9"
  | http10 => "HTTP/1.0"
  | http11 => "HTTP/1.1"
  | http2 => "HTTP/2.0"
  | http3 => "HTTP/3.0"

/-- A request. Its attachments are for the program that made it; they are never sent. -/
structure Request where
  method : String
  uri : Uri
  version : Version := .http11
  headers : Headers := .empty
  body : Bytes := []
  attachments : List String := []
  deriving DecidableEq, Inhabited

/-- A response. -/
structure Response where
  status : Nat
  version : Version := .http11
  headers : Headers := .empty
  body : Bytes := []
  deriving DecidableEq, Inhabited

/-- Why a request cannot be built. -/
inductive RequestError where
  | invalidMethod
  | invalidUri (error : UriError)
  | invalidHeaderName
  | invalidHeaderValue
  deriving DecidableEq, Repr

/-- The text of the fault. -/
def RequestError.message : RequestError → String
  | invalidMethod => "invalid HTTP method"
  | invalidUri error => error.message
  | invalidHeaderName => "invalid HTTP header name"
  | invalidHeaderValue => "failed to parse header value"

/-- A header's name in the form in which it is kept. -/
def headerName (name : String) : Except RequestError String :=
  if isToken name then .ok (String.ofList (name.toList.map Char.toLower))
  else .error .invalidHeaderName

/-- A header's value as bytes. -/
def headerValue (value : String) : Except RequestError Bytes :=
  let bytes := Text.encode value
  if isHeaderValue bytes then .ok bytes else .error .invalidHeaderValue

/-- A method, which is a token in any case of its letters. -/
def checkMethod (method : String) : Except RequestError String :=
  if isToken method then .ok method else .error .invalidMethod

/-- The URI of a text, its fault as a fault of the request. -/
def requestUri (text : String) : Except RequestError Uri :=
  match Uri.parse text with
  | .ok uri => .ok uri
  | .error error => .error (.invalidUri error)

namespace Headers

/-- Add fields given as texts. -/
def appendAll (headers : Headers) : List (String × String) → Except RequestError Headers
  | [] => .ok headers
  | (name, value) :: rest => do
    let name ← headerName name
    let value ← headerValue value
    (headers.append name value).appendAll rest

end Headers

namespace Request

/-- Build a request from texts. Its method is looked at first, then the URI, then the headers. -/
def build (method uri : String) (headers : List (String × String)) (body : Bytes) :
    Except RequestError Request := do
  let method ← checkMethod method
  let uri ← requestUri uri
  let headers ← Headers.empty.appendAll headers
  return { method, uri, headers, body }

/-- A copy that can be sent on its own. Attachments stay with the first one. -/
def copy (request : Request) : Request :=
  { request with attachments := [] }

/-- The form in which a request stands in the first line of an exchange: the resource alone. -/
def originForm (request : Request) : Except RequestError Request := do
  let uri ← requestUri request.uri.resourceText
  return { request with uri }

end Request

end OneHost.Http
