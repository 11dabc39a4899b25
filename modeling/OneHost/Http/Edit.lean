import OneHost.Http.Message

/-!
# Edits of a request

A request can be changed by a list of edits before it is sent. An edit whose text is not well-formed
leaves the request as it is.
-/

namespace OneHost.Http

/-- One change of a request. -/
inductive Edit where
  | setHeader (name value : String)
  | appendHeader (name value : String)
  | setUri (text : String)
  | setMethod (method : String)
  | setBody (body : Bytes)
  deriving DecidableEq

namespace Edit

/-- The request after an edit, unless the edit is not well-formed. -/
def attempt (request : Request) : Edit → Except RequestError Request
  | setHeader name value => do
    let headers := request.headers.insert (← headerName name) (← headerValue value)
    return { request with headers }
  | appendHeader name value => do
    let headers := request.headers.append (← headerName name) (← headerValue value)
    return { request with headers }
  | setUri text => do return { request with uri := ← requestUri text }
  | setMethod method => do return { request with method := ← checkMethod method }
  | setBody body => return { request with body }

/-- The request after an edit. -/
def apply (request : Request) (edit : Edit) : Request :=
  match edit.attempt request with
  | .ok edited => edited
  | .error _ => request

/-- The request after some edits, one after the other. -/
def applyAll (edits : List Edit) (request : Request) : Request :=
  edits.foldl apply request

end Edit

end OneHost.Http
