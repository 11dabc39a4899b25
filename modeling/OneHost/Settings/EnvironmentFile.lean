import OneHost.Settings.Environment
import OneHost.Text.Alphanumeric
import OneHost.Text.Blank

/-!
# Files that add to the environment

A file of lines `NAME=value` gives values to names that have none yet. Values may be quoted and may
then go on over several lines, and they may refer to names that have values. The reading ends at the
first line that is not well-formed; what came before it counts.
-/

namespace OneHost.EnvironmentFile

open Text (isBlank)

/-! ## Lines -/

/-- Where in a line of the file a character stands: between quotes or not, behind a backslash, or
behind a single blank. -/
inductive Place where
  | bare
  | blank
  | escaped
  | weak
  | weakEscaped
  | strong
  | strongEscaped
  deriving DecidableEq

/-- The place behind a character that stands outside of quotes. -/
def Place.afterBare (c : Char) : Place :=
  if c = '\\' then escaped else if c = '"' then weak else if c = '\x27' then strong else bare

/-- The place behind a character. -/
def Place.next (place : Place) (c : Char) : Place :=
  match place with
  | bare => if isBlank c && c ≠ '\n' && c ≠ '\r' then blank else afterBare c
  | blank => afterBare c
  | escaped => bare
  | weak => if c = '\\' then weakEscaped else if c = '"' then bare else weak
  | weakEscaped => weak
  | strong => if c = '\\' then strongEscaped else if c = '\x27' then bare else strong
  | strongEscaped => strong

/-- What a line of the file comes to: the place behind it, or the part of it in front of a
comment. -/
inductive LineEnd where
  | place (place : Place)
  | comment (front : List Char)

/-- Read a line of the file from a place on. -/
def lineEnd (place : Place) : List Char → LineEnd
  | [] => .place place
  | c :: rest =>
    if place = .blank && c = '#' then .comment []
    else
      match lineEnd (place.next c) rest with
      | .place place => .place place
      | .comment front => .comment (c :: front)

/-- The lines of a text, each with the line feed that ends it. -/
def rawLines : List Char → List (List Char)
  | [] => []
  | '\n' :: rest => ['\n'] :: rawLines rest
  | c :: rest =>
    match rawLines rest with
    | [] => [[c]]
    | line :: lines => (c :: line) :: lines

/-- The text without the line break at its end. -/
def withoutBreak (text : List Char) : List Char :=
  match text.reverse with
  | '\n' :: '\r' :: rest => rest.reverse
  | '\n' :: rest => rest.reverse
  | _ => text

/-- Put the lines of a file together where quotes go on over their ends. The last one is none if the
file ends before they do. -/
def joinLines (front : List Char) (place : Place) : List (List Char) → List (Option (List Char))
  | [] => if place = .bare then [] else [none]
  | line :: lines =>
    let text := front ++ line
    if (text.dropWhile isBlank).head? = some '#' then some [] :: joinLines [] .bare lines
    else
      match lineEnd place line with
      | .comment before => some (front ++ before) :: joinLines [] .bare lines
      | .place .bare => some (withoutBreak text) :: joinLines [] .bare lines
      | .place place => joinLines text place lines

/-! ## Values -/

/-- The quotes around a part of a value. -/
inductive Quotes where
  | none
  | weak
  | strong
  deriving DecidableEq

/-- What the next character of a value may be part of: the value itself, an escape, a name, a name
between braces, or what follows the value. -/
inductive Mode where
  | text
  | escaped
  | name (name : List Char)
  | braced (name : List Char)
  | ended
  | comment

/-- A value that is being read: its characters so far, the latest first, and what is open. -/
structure Reading where
  reversed : List Char := []
  quotes : Quotes := .none
  mode : Mode := .text

namespace Reading

variable (valueOf : String → String)

/-- Add a character. -/
def push (reading : Reading) (c : Char) : Reading :=
  { reading with reversed := c :: reading.reversed, mode := .text }

/-- Add the value of a name. -/
def insert (reading : Reading) (name : List Char) : Reading :=
  { reading with
    reversed := (valueOf (String.ofList name)).toList.reverse ++ reading.reversed
    mode := .text }

/-- Take in a character of the value itself. -/
def takeText (reading : Reading) (c : Char) : Reading :=
  match reading.quotes with
  | .strong => if c = '\x27' then { reading with quotes := .none } else reading.push c
  | .weak =>
    if c = '$' then { reading with mode := .name [] }
    else if c = '"' then { reading with quotes := .none }
    else if c = '\\' then { reading with mode := .escaped }
    else reading.push c
  | .none =>
    if c = '$' then { reading with mode := .name [] }
    else if c = '\x27' then { reading with quotes := .strong }
    else if c = '"' then { reading with quotes := .weak }
    else if c = '\\' then { reading with mode := .escaped }
    else if c = ' ' || c = '\t' then { reading with mode := .ended }
    else reading.push c

/-- Take in a character. -/
def take? (reading : Reading) (c : Char) : Option Reading :=
  match reading.mode with
  | .text => some (reading.takeText c)
  | .escaped =>
    if ['\\', '\x27', '"', '$', ' '].contains c then some (reading.push c)
    else if c = 'n' then some (reading.push '\n')
    else none
  | .name name =>
    if Text.isAlphanumeric c then some { reading with mode := .name (name ++ [c]) }
    else if c = '\x7b' && name.isEmpty then some { reading with mode := .braced [] }
    else
      let reading := reading.insert valueOf name
      some (if c = '$' then { reading with mode := .name [] } else reading.push c)
  | .braced name =>
    if c = '\x7d' then some (reading.insert valueOf name)
    else some { reading with mode := .braced (name ++ [c]) }
  | .ended =>
    if c = ' ' || c = '\t' then some reading
    else if c = '#' then some { reading with mode := .comment }
    else none
  | .comment => some reading

/-- The value, once all characters have been taken in. -/
def finish? (reading : Reading) : Option String :=
  match reading.mode, reading.quotes with
  | .braced _, _ | _, .weak | _, .strong => none
  | .name name, .none => some (String.ofList (reading.insert valueOf name).reversed.reverse)
  | _, .none => some (String.ofList reading.reversed.reverse)

end Reading

/-- Read a value, where `valueOf` gives the values of names. -/
def value? (valueOf : String → String) (text : List Char) : Option String := do
  (← text.foldlM (Reading.take? valueOf) {}).finish? valueOf

/-! ## Assignments -/

/-- Read a name: ASCII letters, digits, underscores and points, of which neither a digit nor a point
comes first. -/
def name? (text : List Char) : Option (String × List Char) :=
  let isFirst (c : Char) := c.isAlpha || c = '_'
  if text.head?.any isFirst then
    let name := text.takeWhile fun c => c.isAlphanum || c = '_' || c = '.'
    some (String.ofList name, (text.drop name.length).dropWhile isBlank)
  else none

/-- Read an equality sign. -/
def equals? : List Char → Option (List Char)
  | '=' :: rest => some (rest.dropWhile isBlank)
  | _ => none

/-- Read what stands in front of a value: a name and an equality sign, with `export` in front of
them or not. -/
def target? (text : List Char) : Option (String × List Char) := do
  let (name, rest) ← name? text
  match equals? rest with
  | some rest => return (name, rest)
  | none =>
    if name = "export" then
      let (name, rest) ← name? rest
      return (name, ← equals? rest)
    else none

/-- Read a line. An empty one and a comment assign nothing. -/
def assignment? (valueOf : String → String) (line : List Char) :
    Option (Option (String × String)) := do
  let text := Text.trimmed line
  if text.isEmpty || text.head? = some '#' then return none
  else
    let (name, rest) ← target? text
    if rest.isEmpty || rest.head? = some '#' then return some (name, "")
    else return some (name, ← value? valueOf rest)

/-- Add the assignments of some lines to an environment, where `known` has the values that names
were given by earlier lines. -/
def addLines (environment : Environment) (known : List (String × String)) :
    List (Option (List Char)) → Environment
  | [] | none :: _ => environment
  | some line :: lines =>
    let valueOf (name : String) :=
      ((environment.text? name).or (known.lookup name)).getD ""
    match assignment? valueOf line with
    | none => environment
    | some none => addLines environment known lines
    | some (some (name, value)) =>
      let environment :=
        if (environment.text? name).isSome then environment else environment.set name value
      addLines environment ((name, value) :: known) lines

end OneHost.EnvironmentFile

namespace OneHost

/-- Add the assignments of a file. A mark of the byte order in front of it means nothing. -/
def Environment.addFile (environment : Environment) (content : String) : Environment :=
  let chars := match content.toList with
    | '\ufeff' :: chars => chars
    | chars => chars
  EnvironmentFile.addLines environment []
    (EnvironmentFile.joinLines [] .bare (EnvironmentFile.rawLines chars))

end OneHost
