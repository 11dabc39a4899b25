import OneHost.Text.Number
import OneHost.Text.Split

/-!
# Uniform resource identifiers

A request names its resource in one of three forms: the resource alone, an authority alone, or both
after a scheme. `Uri.parse` reads a text and `Uri.text` writes it again. A fragment is no part of a
request and is dropped.
-/

namespace OneHost.Http

/-- Why a text is not a URI. -/
inductive UriError where
  | tooLong
  | empty
  | invalidCharacter
  | invalidAuthority
  | invalidFormat
  | schemeTooLong
  deriving DecidableEq, Repr

/-- The text of the fault. -/
def UriError.message : UriError → String
  | tooLong => "uri too long"
  | empty => "empty string"
  | invalidCharacter => "invalid uri character"
  | invalidAuthority => "invalid authority"
  | invalidFormat => "invalid format"
  | schemeTooLong => "scheme too long"

/-- A path with the query that follows a question mark. -/
structure Resource where
  path : String
  query : Option String
  deriving DecidableEq, Inhabited

namespace Resource

/-- The characters that may stand in a path: beyond the unreserved ones, several that ought to be
escaped, and every character outside ASCII. -/
def isPathChar (c : Char) : Bool :=
  c = '!' || ('$' ≤ c && c ≤ ';') || c = '=' || ('@' ≤ c && c ≤ '_') || ('a' ≤ c && c ≤ 'z') ||
    c = '|' || c = '~' || c = '"' || c = '\x7b' || c = '\x7d' || 0x80 ≤ c.toNat

/-- The characters that may stand in a query. -/
def isQueryChar (c : Char) : Bool :=
  c = '!' || ('$' ≤ c && c ≤ ';') || c = '=' || ('?' ≤ c && c ≤ '~') || 0x80 ≤ c.toNat

/-- The text up to a fragment. -/
def withoutFragment (text : List Char) : List Char :=
  text.takeWhile (· ≠ '#')

/-- Cut a text into path and query. -/
def ofChars (text : List Char) : Resource :=
  match Text.splitOnce? '?' text with
  | some (path, query) => ⟨String.ofList path, some (String.ofList query)⟩
  | none => ⟨String.ofList text, none⟩

/-- Whether path and query consist of characters that may stand there. -/
def isWritable (resource : Resource) : Bool :=
  resource.path.toList.all isPathChar && (resource.query.getD "").toList.all isQueryChar

/-- Read a resource. -/
def parse (text : List Char) : Except UriError Resource :=
  let resource := ofChars (withoutFragment text)
  if resource.isWritable then .ok resource else .error .invalidCharacter

/-- The question mark and what follows it. -/
def queryText (resource : Resource) : String :=
  match resource.query with
  | some query => "?" ++ query
  | none => ""

/-- The path, where an empty one means the root. -/
def fullPath (resource : Resource) : String :=
  if resource.path = "" then "/" else resource.path

/-- Path and query as written, where nothing at all means the root. -/
def text (resource : Resource) : String :=
  if resource.path = "" ∧ resource.query = none then "/" else resource.path ++ resource.queryText

end Resource

/-! ## Authorities -/

namespace Authority

/-- The characters that end an authority. -/
def isEnd (c : Char) : Bool :=
  c = '/' || c = '?' || c = '#'

/-- The ASCII characters that may stand in an authority as they are. -/
def isPlain (c : Char) : Bool :=
  c.isAlphanum || c = '!' || c = '$' || c = '&' || c = '\x27' || c = '(' || c = ')' || c = '*' ||
    c = '+' || c = ',' || c = '-' || c = '.' || c = ';' || c = '=' || c = '_' || c = '~'

/-- What has been seen of an authority, as far as it matters for what may follow. Colons and percent
signs are free in user information and between brackets, so the sign that ends either resets
them. -/
structure Scan where
  colons : Nat := 0
  bracketOpened : Bool := false
  bracketClosed : Bool := false
  percent : Bool := false

/-- Take in one more character. -/
def Scan.step (scan : Scan) (c : Char) : Except UriError Scan :=
  if c = ':' then
    if 8 ≤ scan.colons then .error .invalidAuthority
    else .ok { scan with colons := scan.colons + 1 }
  else if c = '[' then
    if scan.percent || scan.bracketOpened then .error .invalidAuthority
    else .ok { scan with bracketOpened := true }
  else if c = ']' then
    if !scan.bracketOpened || scan.bracketClosed then .error .invalidAuthority
    else .ok { scan with bracketClosed := true, colons := 0, percent := false }
  else if c = '@' then .ok { scan with colons := 0, percent := false }
  else if c = '%' then .ok { scan with percent := true }
  else if isPlain c then .ok scan
  else .error .invalidCharacter

/-- Whether an authority may end here. -/
def Scan.isComplete (scan : Scan) : Bool :=
  scan.bracketOpened == scan.bracketClosed && scan.colons ≤ 1 && !scan.percent

/-- Check an authority that ends where the text does. -/
def check (authority : List Char) : Except UriError Unit :=
  match authority.foldlM Scan.step {} with
  | .error error => .error error
  | .ok scan =>
    if scan.isComplete && authority.getLast? != some '@' then .ok () else .error .invalidAuthority

/-- The part after any user information. -/
def hostAndPort (authority : List Char) : List Char :=
  match Text.splitLast? '@' authority with
  | some (_, rest) => rest
  | none => authority

/-- The host, with its brackets if it has any. -/
def host (authority : List Char) : List Char :=
  let rest := hostAndPort authority
  if rest.head? = some '[' then rest.takeWhile (· ≠ ']') ++ [']'] else rest.takeWhile (· ≠ ':')

/-- The port, if there is a number after the last colon. -/
def port? (authority : List Char) : Option Nat :=
  match Text.splitLast? ':' authority with
  | some (_, digits) => (Text.readNumber 65535 (String.ofList digits)).toOption
  | none => none

end Authority

/-! ## Whole identifiers -/

/-- The forms of a request's URI. -/
inductive Uri where
  | origin (resource : Resource)
  | server (authority : String)
  | absolute (scheme authority : String) (resource : Resource)
  deriving DecidableEq, Inhabited

namespace Uri

/-- The most bytes that a URI may have. -/
def maxLength : Nat := 65534

/-- The most characters that a scheme may have. -/
def maxSchemeLength : Nat := 64

/-- The characters that may stand in a scheme. -/
def isSchemeChar (c : Char) : Bool :=
  c.isAlphanum || c = '+' || c = '-' || c = '.' || c = '~'

/-- What follows `front` in a text, whatever the case of its ASCII letters. -/
def afterIgnoringCase? (front text : List Char) : Option (List Char) :=
  if (text.take front.length).map Char.toLower = front then some (text.drop front.length) else none

/-- The scheme at the front of a text and what follows the two slashes. -/
def scheme? (text : List Char) : Except UriError (Option (String × List Char)) :=
  match afterIgnoringCase? "http://".toList text with
  | some rest => .ok (some ("http", rest))
  | none =>
    match afterIgnoringCase? "https://".toList text with
    | some rest => .ok (some ("https", rest))
    | none =>
      let scheme := text.takeWhile isSchemeChar
      match text.drop scheme.length with
      | ':' :: '/' :: '/' :: rest =>
        if scheme.isEmpty && rest.isEmpty then .ok none
        else if maxSchemeLength < scheme.length then .error .schemeTooLong
        else .ok (some (String.ofList scheme, rest))
      | _ => .ok none

/-- Read an authority and, behind it, a resource. -/
def parseAbsolute (scheme : String) (rest : List Char) : Except UriError Uri :=
  if rest.isEmpty then .error .empty
  else
    let authority := rest.takeWhile (!Authority.isEnd ·)
    match Authority.check authority with
    | .error error => .error error
    | .ok () =>
      if authority.isEmpty then .error .invalidFormat
      else
        match Resource.parse (rest.drop authority.length) with
        | .error error => .error error
        | .ok resource => .ok (.absolute scheme (String.ofList authority) resource)

/-- Read a text that has no scheme and can only be an authority. -/
def parseAuthority (text : List Char) : Except UriError Uri :=
  let authority := text.takeWhile (!Authority.isEnd ·)
  match Authority.check authority with
  | .error error => .error error
  | .ok () =>
    if authority.length = text.length then .ok (.server (String.ofList text))
    else if text.length = 1 then .error .invalidCharacter
    else .error .invalidFormat

/-- Read a URI. -/
def parse (text : String) : Except UriError Uri :=
  if maxLength < text.utf8ByteSize then .error .tooLong
  else
    match text.toList with
    | [] => .error .empty
    | ['*'] => .ok (.origin ⟨"*", none⟩)
    | '/' :: rest =>
      match Resource.parse ('/' :: rest) with
      | .ok resource => .ok (.origin resource)
      | .error error => .error error
    | chars =>
      match scheme? chars with
      | .error error => .error error
      | .ok none => parseAuthority chars
      | .ok (some (scheme, rest)) => parseAbsolute scheme rest

/-- The resource that is named; an authority alone names none. -/
def resource? : Uri → Option Resource
  | origin resource => some resource
  | server _ => none
  | absolute _ _ resource => some resource

/-- The text of the resource that is named, or the root. -/
def resourceText (uri : Uri) : String :=
  match uri.resource? with
  | some resource => resource.text
  | none => "/"

/-- The path; an authority alone has an empty one. -/
def path : Uri → String
  | origin resource => resource.fullPath
  | server _ => ""
  | absolute _ _ resource => resource.fullPath

/-- The query, if there is one. -/
def query (uri : Uri) : Option String :=
  uri.resource?.bind Resource.query

/-- The authority, if there is one. -/
def authority? : Uri → Option String
  | origin _ => none
  | server authority => some authority
  | absolute _ authority _ => some authority

/-- The host that the authority names. -/
def host? (uri : Uri) : Option String :=
  uri.authority?.map fun authority => String.ofList (Authority.host authority.toList)

/-- The port that the authority names. -/
def port? (uri : Uri) : Option Nat :=
  uri.authority?.bind fun authority => Authority.port? authority.toList

/-- The text of a URI. An empty path is written as the root wherever there is a resource. -/
def text : Uri → String
  | origin resource => resource.fullPath ++ resource.queryText
  | server authority => authority
  | absolute scheme authority resource =>
    scheme ++ "://" ++ authority ++ resource.fullPath ++ resource.queryText

end Uri

end OneHost.Http
