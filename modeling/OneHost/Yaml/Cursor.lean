/-!
# A place in a text

Indentation and line breaks matter in YAML, so a reader has to know in which line and column it is.
A cursor is the rest of a text together with that place. The characters are sorted into blanks,
which separate words, and breaks, which end lines; a carriage return with a line feed is one break.
-/

namespace OneHost.Yaml

/-- Spaces and tabs. -/
def isBlank (c : Char) : Bool :=
  c = ' ' || c = '\t'

/-- The characters that end a line. -/
def isBreak (c : Char) : Bool :=
  c = '\r' || c = '\n' || c = '\u0085' || c = '\u2028' || c = '\u2029'

/-- The characters that separate words. -/
def isSpace (c : Char) : Bool :=
  isBlank c || isBreak c

/-- Whether a word ends before what comes next. -/
def endsWord : Option Char → Bool
  | none => true
  | some c => isSpace c

/-- Whether a line ends before what comes next. -/
def endsLine : Option Char → Bool
  | none => true
  | some c => isBreak c

/-- The characters that may stand in a text at all. -/
def isAllowed (c : Char) : Bool :=
  c = '\t' || c = '\n' || c = '\r' || (' ' ≤ c && c ≤ '~') || c = '\u0085' ||
    ('\u00a0' ≤ c && c ≤ '\ufffd') || 0x10000 ≤ c.toNat

/-- The characters of anchors, of directives and of the handles of tags. -/
def isWordChar (c : Char) : Bool :=
  c.isAlphanum || c = '_' || c = '-'

/-- What the line breaks in a text amount to: the two separators of Unicode stay what they are, and
all others become line feeds. -/
def breaksIn : List Char → List Char
  | [] => []
  | ['\r'] => ['\n']
  | '\r' :: '\n' :: rest => '\n' :: breaksIn rest
  | c :: rest =>
    if c = '\u2028' || c = '\u2029' then c :: breaksIn rest
    else if isBreak c then '\n' :: breaksIn rest
    else breaksIn rest

/-- Lines are joined by a space where there is a single break between them; of more breaks, all but
the first stay. -/
def folded : List Char → List Char
  | ['\n'] => [' ']
  | '\n' :: more => more
  | breaks => breaks

/-- A place in a text. -/
structure Cursor where
  rest : List Char
  index : Nat := 0
  line : Nat := 0
  column : Nat := 0

namespace Cursor

/-- The next character. -/
def peek? (cursor : Cursor) : Option Char := cursor.rest.head?

/-- The place behind the next character. -/
def skip (cursor : Cursor) : Cursor :=
  match cursor.rest with
  | [] => cursor
  | '\r' :: '\n' :: rest =>
    { cursor with rest := '\n' :: rest, index := cursor.index + 1, column := cursor.column + 1 }
  | c :: rest =>
    if isBreak c then { rest, index := cursor.index + 1, line := cursor.line + 1 }
    else { cursor with rest, index := cursor.index + 1, column := cursor.column + 1 }

/-- The place behind some characters. -/
def advance (cursor : Cursor) : Nat → Cursor
  | 0 => cursor
  | count + 1 => cursor.skip.advance count

/-- The characters of a kind that come next, and the place behind them. -/
def takeWhile (cursor : Cursor) (kind : Char → Bool) : List Char × Cursor :=
  let taken := cursor.rest.takeWhile kind
  (taken, cursor.advance taken.length)

/-- The place behind the characters of a kind that come next. -/
def dropWhile (cursor : Cursor) (kind : Char → Bool) : Cursor :=
  (cursor.takeWhile kind).2

/-- The line break that comes next, if there is one, and the place behind it. -/
def takeBreak (cursor : Cursor) : List Char × Cursor :=
  match cursor.rest with
  | '\r' :: '\n' :: _ => (['\n'], cursor.advance 2)
  | c :: _ => if isBreak c then (breaksIn [c], cursor.skip) else ([], cursor)
  | [] => ([], cursor)

/-- The place behind a comment, if one comes next. -/
def dropComment (cursor : Cursor) : Cursor :=
  if cursor.peek? = some '#' then cursor.dropWhile (!isBreak ·) else cursor

/-- The place behind the rest of a line in which nothing but a comment may follow. -/
def endLine? (cursor : Cursor) : Option Cursor :=
  let cursor := (cursor.dropWhile isBlank).dropComment
  if endsLine cursor.peek? then some cursor.takeBreak.2 else none

/-- Whether three characters that separate documents come next. -/
def atMarker (marker : List Char) (cursor : Cursor) : Bool :=
  cursor.column = 0 && marker.isPrefixOf cursor.rest && endsWord (cursor.rest.drop 3).head?

/-- Whether a document ends or begins here. -/
def atBoundary (cursor : Cursor) : Bool :=
  cursor.atMarker ['-', '-', '-'] || cursor.atMarker ['.', '.', '.']

end Cursor

end OneHost.Yaml
