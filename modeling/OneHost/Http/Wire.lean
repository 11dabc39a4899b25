import OneHost.Http.Message
import OneHost.Http.Status
import OneHost.Text.Blank
import OneHost.Text.Split

/-!
# Messages on a connection

What requests and responses look like as bytes. A message begins with a head of lines: what it is
about, then its header fields, then an empty line. How far the body goes is told by the head, or by
the end of the connection.
-/

namespace OneHost.Http

/-- What comes of reading the front of some bytes. -/
inductive Reading (α : Type) where
  | done (value : α) (rest : Bytes)
  | short
  | invalid

namespace Reading

/-- Go on with what was read. -/
def andThen {α β : Type} (reading : Reading α) (next : α → Bytes → Reading β) : Reading β :=
  match reading with
  | done value rest => next value rest
  | short => short
  | invalid => invalid

/-- A value that may be missing because the bytes cannot be read. -/
def ofOption {α : Type} (rest : Bytes) : Option α → Reading α
  | some value => done value rest
  | none => invalid

end Reading

/-- Where the body of a message ends. -/
inductive Framing where
  | length (bytes : Nat)
  | chunked
  | untilClose
  deriving DecidableEq

namespace Wire

/-- The end of a line. -/
def lineEnd : Bytes := [13, 10]

/-- Read a line. It ends in a line feed, which a carriage return may precede. -/
def readLine (bytes : Bytes) : Reading Bytes :=
  match Text.splitOnce? 10 bytes with
  | some (line, rest) => .done (if line.getLast? = some 13 then line.dropLast else line) rest
  | none => .short

/-- The number that some digits stand for. -/
def number? (digits : Bytes) : Option Nat :=
  if digits.all (fun byte => 48 ≤ byte && byte ≤ 57) && !digits.isEmpty then
    some (digits.foldl (fun value byte => value * 10 + (byte.toNat - 48)) 0)
  else none

/-- The version and the status that the first line of a response names. A reason may follow. -/
def statusLine? (line : Bytes) : Option (Version × Nat) := do
  let version ←
    if (Text.encode "HTTP/1.1 ").isPrefixOf line then some Version.http11
    else if (Text.encode "HTTP/1.0 ").isPrefixOf line then some Version.http10
    else none
  let status ← number? ((line.drop 9).take 3)
  let reason := line.drop 12
  if isStatus status && (reason.isEmpty || (reason.head? = some 32 && isHeaderValue reason)) then
    some (version, status)
  else none

/-- A value without the spaces and tabs around it. -/
def trimValue (value : Bytes) : Bytes :=
  let isBlank (byte : UInt8) : Bool := byte = 32 || byte = 9
  ((value.dropWhile isBlank).reverse.dropWhile isBlank).reverse

/-- The header field that a line holds. -/
def field? (line : Bytes) : Option (String × Bytes) := do
  let (name, value) ← Text.splitOnce? 58 line
  let name ← (headerName (← Text.decode? name)).toOption
  let value := trimValue value
  if isHeaderValue value then some (name, value) else none

/-- Read header fields up to the empty line after them. -/
def readFields (headers : Headers) (bytes : Bytes) : Reading Headers :=
  match readLine bytes with
  | .done [] rest => .done headers rest
  | .done line rest =>
    match field? line with
    | some (name, value) =>
      if rest.length < bytes.length then readFields (headers.append name value) rest else .invalid
    | none => .invalid
  | .short => .short
  | .invalid => .invalid
termination_by bytes.length

/-- Read the empty lines before a message. -/
def skipEmptyLines : Bytes → Bytes
  | 13 :: 10 :: rest => skipEmptyLines rest
  | 10 :: rest => skipEmptyLines rest
  | bytes => bytes

/-- Read the head of a response. -/
def readHead (bytes : Bytes) : Reading Response :=
  (readLine (skipEmptyLines bytes)).andThen fun line rest =>
    (Reading.ofOption rest (statusLine? line)).andThen fun (version, status) rest =>
      (readFields .empty rest).andThen fun headers rest =>
        .done { status, version, headers } rest

/-- The texts between the commas of a value, without the blanks around them. A value that is not
text has none. -/
def items (value : Bytes) : List String :=
  ((Text.decode? value).toList.flatMap fun text => Text.split ',' text.toList).map fun item =>
    String.ofList ((Text.trimmed item).map Char.toLower)

/-- Whether a connection goes on, where the values of the header for it are looked at in turn: one
that would go on may be stopped, and one that would not may be kept. -/
def keepsAlive (version : Version) (headers : Headers) : Bool :=
  (headers.valuesOf "connection").foldl
    (fun keeps value =>
      if keeps then !(items value).contains "close" else (items value).contains "keep-alive")
    (version = .http11)

/-- The length that all values of the header for it agree on. -/
def contentLength? (headers : Headers) : Option Nat :=
  match ((headers.valuesOf "content-length").flatMap items).map fun text =>
      number? (Text.encode text) with
  | [] => none
  | first :: rest => if rest.all (· = first) then first else none

/-- Where the body of a response ends. -/
def framing? (method : String) (response : Response) : Option Framing :=
  let has (name : String) : Bool := !(response.headers.valuesOf name).isEmpty
  if response.status = 204 || response.status = 304 || response.status = 101 ||
      method = "HEAD" || (method = "CONNECT" && response.status / 100 = 2) then some (.length 0)
  else if has "transfer-encoding" then
    if response.version = .http10 then none
    else if ((response.headers.valuesOf "transfer-encoding").flatMap items).getLast? =
        some "chunked" then
      some .chunked
    else some .untilClose
  else if has "content-length" then (contentLength? response.headers).map .length
  else some .untilClose

/-- The value of a hexadecimal digit. -/
def hexDigit? (byte : UInt8) : Option Nat :=
  if 48 ≤ byte && byte ≤ 57 then some (byte.toNat - 48)
  else if 97 ≤ byte && byte ≤ 102 then some (byte.toNat - 87)
  else if 65 ≤ byte && byte ≤ 70 then some (byte.toNat - 55)
  else none

/-- The size that the line before a chunk names. An extension may follow. -/
def chunkSize? (line : Bytes) : Option Nat :=
  let digits := line.takeWhile fun byte => (hexDigit? byte).isSome
  let rest := (line.drop digits.length).dropWhile fun byte => byte = 32 || byte = 9
  if digits.isEmpty || !(rest.isEmpty || rest.head? = some 59) then none
  else some (digits.foldl (fun value byte => value * 16 + (hexDigit? byte).getD 0) 0)

/-- Read the chunks of a body up to the one without content and the fields after it. -/
def readChunks (body bytes : Bytes) : Reading Bytes :=
  match readLine bytes with
  | .done line rest =>
    match chunkSize? line with
    | none => .invalid
    | some 0 => (readFields .empty rest).andThen fun _ rest => .done body rest
    | some size =>
      if rest.length < size + 2 then .short
      else if (rest.drop size).take 2 ≠ lineEnd then .invalid
      else if (rest.drop (size + 2)).length < bytes.length then
        readChunks (body ++ rest.take size) (rest.drop (size + 2))
      else .invalid
  | .short => .short
  | .invalid => .invalid
termination_by bytes.length
decreasing_by assumption

/-- Read a body, where `ended` tells whether the connection has ended after the bytes. -/
def readBody (framing : Framing) (ended : Bool) (bytes : Bytes) : Reading Bytes :=
  match framing with
  | .length length =>
    if bytes.length < length then .short else .done (bytes.take length) (bytes.drop length)
  | .chunked => readChunks [] bytes
  | .untilClose => if ended then .done bytes [] else .short

/-- Whether a status only announces the response to come. -/
def isInformational (status : Nat) : Bool :=
  status < 200 && status ≠ 101

/-- Read the response to a request, and whether its connection can take another request. Where bytes
are left over, the ends no longer agree on what they talk about. -/
def readResponse (method : String) (ended : Bool) (bytes : Bytes) : Reading (Response × Bool) :=
  match readHead bytes with
  | .done head rest =>
    if isInformational head.status then
      if rest.length < bytes.length then readResponse method ended rest else .invalid
    else
      match framing? method head with
      | none => .invalid
      | some framing =>
        (readBody framing ended rest).andThen fun body rest =>
          let reusable :=
            framing ≠ .untilClose && head.status ≠ 101 && keepsAlive head.version head.headers &&
              rest.isEmpty
          .done ({ head with body }, reusable) rest
  | .short => .short
  | .invalid => .invalid
termination_by bytes.length

/-- A response as bytes. -/
def encodeResponse (status : Nat) (fields : List (String × String)) (body : Bytes) : Bytes :=
  let lines := ("HTTP/1.1 " ++ statusText status) ::
    fields.map fun (name, value) => name ++ ": " ++ value
  lines.flatMap (fun line => Text.encode line ++ lineEnd) ++ lineEnd ++ body

/-- The header fields with which a request is written. The length of a body is told, unless the
request tells it itself; without a body there is nothing to tell how it is transferred. To an end
that speaks the old version it is said that the connection is to go on. -/
def requestHeaders (request : Request) (version : Version) : Headers :=
  let headers := request.headers
  let headers : Headers :=
    if request.body.isEmpty then headers.remove "transfer-encoding"
    else if (headers.valuesOf "transfer-encoding").isEmpty && (contentLength? headers).isNone then
      headers.insert "content-length" (Text.encode (Text.decimal request.body.length))
    else headers
  if version = .http10 && !keepsAlive version headers then
    headers.insert "connection" (Text.encode "keep-alive")
  else headers

/-- The lines of the head of a request, for an end that speaks some version. -/
def requestLines (request : Request) (version : Version) : List String :=
  (request.method ++ " " ++ request.uri.text ++ " " ++ version.text) ::
    (requestHeaders request version).toList.map fun (name, value) =>
      name ++ ": " ++ String.ofList (Text.decodeLossy value)

end Wire

end OneHost.Http
