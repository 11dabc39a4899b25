import OneHost.Document.Basic
import OneHost.Yaml.Scalar

/-!
# Tokens

A text in YAML is a row of tokens, in which the indentation of lines has become explicit: each list
and each mapping that is laid out by indentation has a token where it begins and one where it ends.
A key need not be marked as one in the text. Whether something is a key is known only when the colon
behind it is reached, so the places where a key may have begun are remembered, and the tokens for it
are put in afterwards.
-/

namespace OneHost.Yaml

/-- The parts of a text in YAML. -/
inductive Token where
  | version (major minor : Nat)
  | shorthand (handle start : List Char)
  | documentStart
  | documentEnd
  | blockList
  | blockMapping
  | blockEnd
  | flowList
  | flowListEnd
  | flowMapping
  | flowMappingEnd
  | item
  | comma
  | key
  | value
  | reference (name : List Char)
  | anchor (name : List Char)
  | tag (handle suffix : List Char)
  | scalar (style : Style) (text : List Char)
  deriving DecidableEq

/-! ## Directives, anchors and tags -/

/-- Read a number of one to nine digits. -/
def number? (text : List Char) : Option (Nat × Nat) :=
  let digits := text.takeWhile Char.isDigit
  if digits.isEmpty || 9 < digits.length then none
  else some (digits.foldl (fun value c => value * 10 + (c.toNat - '0'.toNat)) 0, digits.length)

/-- The characters of a tag's name. -/
def isTagChar (verbatim : Bool) (c : Char) : Bool :=
  isWordChar c || ";/?:@&=+$.%!~*\x27()".toList.contains c || (verbatim && ",[]".toList.contains c)

/-- The bytes that escapes at the front of a text stand for. -/
def escapedBytes : List Char → Bytes
  | '%' :: high :: low :: rest =>
    match hexDigit? high, hexDigit? low with
    | some high, some low => (high * 16 + low).toUInt8 :: escapedBytes rest
    | _, _ => []
  | _ => []

/-- Resolve the escapes in a tag's name, where `skip` counts the characters of escapes already
resolved. The bytes have to be well-formed text. -/
def unescaped? : Nat → List Char → Option (List Char)
  | _, [] => some []
  | skip + 1, _ :: rest => unescaped? skip rest
  | 0, '%' :: rest => do
    let bytes := escapedBytes ('%' :: rest)
    if bytes.isEmpty then none
    else
      let text ← Text.decode? bytes
      return text.toList ++ (← unescaped? (bytes.length * 3 - 1) rest)
  | 0, c :: rest => (unescaped? 0 rest).map (c :: ·)

/-- Read a tag's name, given what the tag has in front of it. Together they are not empty. -/
def tagName? (verbatim : Bool) (front : List Char) (cursor : Cursor) :
    Option (List Char × Cursor) := do
  let (name, cursor) := cursor.takeWhile (isTagChar verbatim)
  if front.isEmpty && name.isEmpty then none
  else return (front.drop 1 ++ (← unescaped? 0 name), cursor)

/-- Read a tag's handle: an exclamation mark, or a word between two of them. What has no second one
is the front of a name. -/
def handle? (cursor : Cursor) : Option (List Char × Cursor) :=
  if cursor.peek? = some '!' then
    let (word, cursor) := cursor.skip.takeWhile isWordChar
    if cursor.peek? = some '!' then some ('!' :: word ++ ['!'], cursor.skip)
    else some ('!' :: word, cursor)
  else none

/-- Whether a handle is complete in itself. -/
def isHandle (handle : List Char) : Bool :=
  1 < handle.length && handle.getLast? = some '!'

/-- Read a directive behind its percent sign. -/
def directive? (cursor : Cursor) : Option (Token × Cursor) := do
  let (name, cursor) := cursor.takeWhile isWordChar
  if !endsWord cursor.peek? then none
  else
    let cursor := cursor.dropWhile isBlank
    let (token, cursor) ← match String.ofList name with
      | "YAML" => do
        let (major, length) ← number? cursor.rest
        let cursor := cursor.advance length
        if cursor.peek? ≠ some '.' then none
        else
          let (minor, length) ← number? cursor.skip.rest
          pure (Token.version major minor, cursor.skip.advance length)
      | "TAG" => do
        let (handle, cursor) ← handle? cursor
        if !(handle = ['!'] || isHandle handle) || !cursor.peek?.any isBlank then none
        else
          let (start, cursor) ← tagName? true [] (cursor.dropWhile isBlank)
          if endsWord cursor.peek? then pure (Token.shorthand handle start, cursor) else none
      | _ => none
    return (token, ← cursor.endLine?)

/-- Read the name of an anchor or an alias behind its indicator. -/
def anchorName? (cursor : Cursor) : Option (List Char × Cursor) :=
  let (name, cursor) := cursor.takeWhile isWordChar
  let ends := endsWord cursor.peek? || cursor.peek?.any ("?:,]\x7d%@\x60".toList.contains ·)
  if name.isEmpty || !ends then none else some (name, cursor)

/-- Read a tag. -/
def tag? (inFlow : Bool) (cursor : Cursor) : Option (Token × Cursor) := do
  let (token, cursor) ←
    if cursor.skip.peek? = some '<' then do
      let (name, cursor) ← tagName? true [] (cursor.advance 2)
      if cursor.peek? = some '>' then pure (Token.tag [] name, cursor.skip) else none
    else do
      let (handle, cursor) ← handle? cursor
      if isHandle handle then
        let (suffix, cursor) ← tagName? false [] cursor
        pure (Token.tag handle suffix, cursor)
      else
        let (suffix, cursor) ← tagName? false handle cursor
        pure (if suffix.isEmpty then Token.tag [] ['!'] else Token.tag ['!'] suffix, cursor)
  if endsWord cursor.peek? || (inFlow && cursor.peek? = some ',') then return (token, cursor)
  else none

/-! ## The lexer -/

/-- A place where a key may have begun. A required one must turn out to be a key. -/
structure Candidate where
  position : Nat
  required : Bool
  index : Nat
  line : Nat
  column : Nat

/-- The state of the lexer: the tokens so far, the last one first, the indentations of the blocks
that are open, and for the outermost level and each open flow where a key may have begun. -/
structure Lexer where
  cursor : Cursor
  bound : Nat
  tokens : List Token := []
  count : Nat := 0
  mayBeginKey : Bool := true
  candidates : List (Option Candidate) := [none]
  indent : Int := -1
  outer : List Int := []

namespace Lexer

/-- Whether a list or mapping in brackets is open. -/
def inFlow (lexer : Lexer) : Bool := 1 < lexer.candidates.length

/-- Add a token. -/
def emit (lexer : Lexer) (token : Token) : Lexer :=
  { lexer with tokens := token :: lexer.tokens, count := lexer.count + 1 }

/-- Put a token in at an earlier position. -/
def emitAt (lexer : Lexer) (position : Nat) (token : Token) : Lexer :=
  let (later, earlier) := lexer.tokens.splitAt (lexer.count - position)
  { lexer with tokens := later ++ token :: earlier, count := lexer.count + 1 }

/-- Add a token of one character. -/
def emitChar (lexer : Lexer) (token : Token) : Lexer :=
  { lexer.emit token with cursor := lexer.cursor.skip }

/-- Give up the place where a key may have begun. -/
def dropCandidate? (lexer : Lexer) : Option Lexer :=
  match lexer.candidates with
  | some candidate :: others =>
    if candidate.required then none else some { lexer with candidates := none :: others }
  | _ => some lexer

/-- Remember that a key may begin here. -/
def saveCandidate? (lexer : Lexer) : Option Lexer := do
  if lexer.mayBeginKey then
    let lexer ← lexer.dropCandidate?
    let cursor := lexer.cursor
    let candidate : Candidate :=
      { position := lexer.count
        required := !lexer.inFlow && lexer.indent = cursor.column
        index := cursor.index, line := cursor.line, column := cursor.column }
    return { lexer with candidates := some candidate :: lexer.candidates.drop 1 }
  else return lexer

/-- Give up the candidates that are too far behind: a key ends in the line in which it begins,
within 1024 characters. -/
def dropStale? (lexer : Lexer) : Option Lexer := do
  let candidates ← lexer.candidates.mapM fun candidate =>
    match candidate with
    | none => some none
    | some candidate =>
      if candidate.line < lexer.cursor.line || candidate.index + 1024 < lexer.cursor.index then
        if candidate.required then none else some none
      else some (some candidate)
  return { lexer with candidates }

/-- End the blocks that are indented by more than `column`, one after the other. -/
def unroll (column : Int) : List Int → Lexer → Lexer
  | [], lexer => lexer
  | outer :: rest, lexer =>
    if column < lexer.indent then
      unroll column rest { lexer.emit .blockEnd with indent := outer, outer := rest }
    else lexer

/-- End the blocks that what stands in `column` is not part of. In brackets, columns mean
nothing. -/
def unrollTo (lexer : Lexer) (column : Int) : Lexer :=
  if lexer.inFlow then lexer else unroll column lexer.outer lexer

/-- Begin a block if `column` is further in than the one that is open. -/
def roll (lexer : Lexer) (column position : Nat) (token : Token) : Lexer :=
  if !lexer.inFlow && lexer.indent < column then
    { lexer.emitAt position token with indent := column, outer := lexer.indent :: lexer.outer }
  else lexer

/-- Pass over what separates tokens. A tab cannot stand where a key may begin, except in
brackets. -/
def toNextToken : Nat → Lexer → Lexer
  | 0, lexer => lexer
  | bound + 1, lexer =>
    let cursor := lexer.cursor
    let cursor := if cursor.column = 0 && cursor.peek? = some '\ufeff' then cursor.skip else cursor
    let tabs := lexer.inFlow || !lexer.mayBeginKey
    let cursor := (cursor.dropWhile fun c => c = ' ' || (tabs && c = '\t')).dropComment
    if endsLine cursor.peek? && cursor.peek?.isSome then
      toNextToken bound
        { lexer with
          cursor := cursor.takeBreak.2
          mayBeginKey := lexer.mayBeginKey || !lexer.inFlow }
    else { lexer with cursor }

/-- Begin a list or mapping in brackets. -/
def openFlow? (lexer : Lexer) (token : Token) : Option Lexer := do
  let lexer ← lexer.saveCandidate?
  return { lexer.emitChar token with candidates := none :: lexer.candidates, mayBeginKey := true }

/-- End a list or mapping in brackets. -/
def closeFlow? (lexer : Lexer) (token : Token) : Option Lexer := do
  let lexer ← lexer.dropCandidate?
  let candidates := if lexer.inFlow then lexer.candidates.drop 1 else lexer.candidates
  return { lexer.emitChar token with candidates, mayBeginKey := false }

/-- Take the indicator of an item or of a key, which begins a block where there is none. -/
def begin? (lexer : Lexer) (block token : Token) (keyFollows : Bool) : Option Lexer := do
  if !lexer.inFlow && !lexer.mayBeginKey then none
  else
    let lexer ← (lexer.roll lexer.cursor.column lexer.count block).dropCandidate?
    return { lexer.emitChar token with mayBeginKey := keyFollows }

/-- Take a colon: what may have been a key is one. -/
def value? (lexer : Lexer) : Option Lexer :=
  match lexer.candidates with
  | some candidate :: others =>
    let lexer := (lexer.emitAt candidate.position .key).roll candidate.column candidate.position
      .blockMapping
    some { lexer.emitChar .value with candidates := none :: others, mayBeginKey := false }
  | _ =>
    if lexer.inFlow then some { lexer.emitChar .value with mayBeginKey := false }
    else if lexer.mayBeginKey then
      some ((lexer.roll lexer.cursor.column lexer.count .blockMapping).emitChar .value)
    else none

/-- Take something that a key may consist of. -/
def node? (lexer : Lexer) (read? : Cursor → Option (Token × Cursor)) : Option Lexer := do
  let lexer ← lexer.saveCandidate?
  let (token, cursor) ← read? lexer.cursor
  return { lexer.emit token with cursor, mayBeginKey := false }

/-- Take a block of lines. -/
def block? (lexer : Lexer) (isFolded : Bool) : Option Lexer := do
  let lexer ← lexer.dropCandidate?
  let reading ← readBlock? isFolded lexer.indent lexer.bound lexer.cursor.skip
  let token := Token.scalar (if isFolded then .quoted else .literal) reading.text
  return { lexer.emit token with cursor := reading.cursor, mayBeginKey := true }

/-- Take a plain scalar. Behind a line break, a key may begin. -/
def plain? (lexer : Lexer) : Option Lexer := do
  let lexer ← lexer.saveCandidate?
  let reading ← readPlain? lexer.inFlow (lexer.indent + 1) lexer.bound [] ⟨[], lexer.cursor, false⟩
  return { lexer.emit (.scalar .plain reading.text) with
    cursor := reading.cursor, mayBeginKey := reading.endsInBreak }

/-- Take a token that stands between documents. -/
def boundary? (lexer : Lexer) (read? : Cursor → Option (Token × Cursor)) : Option Lexer := do
  let lexer ← (lexer.unrollTo (-1)).dropCandidate?
  let (token, cursor) ← read? lexer.cursor
  return { lexer.emit token with cursor, mayBeginKey := false }

/-- Whether a plain scalar can begin with a character, given what follows. -/
def beginsPlain (inFlow : Bool) (c : Char) (next : Option Char) : Bool :=
  !(isSpace c || "-?:,[]\x7b\x7d#&*!|>\x27\"%@\x60".toList.contains c) ||
    (c = '-' && !next.any isBlank) ||
    (!inFlow && (c = '?' || c = ':') && !endsWord next)

/-- Take the token that begins with a character. -/
def take? (lexer : Lexer) (c : Char) : Option Lexer :=
  let cursor := lexer.cursor
  let next := cursor.skip.peek?
  let inFlow := lexer.inFlow
  let named (make : List Char → Token) (cursor : Cursor) : Option (Token × Cursor) :=
    (anchorName? cursor.skip).map fun (name, cursor) => (make name, cursor)
  let quoted (cursor : Cursor) : Option (Token × Cursor) :=
    (readQuoted? c lexer.bound ⟨[], cursor.skip, false⟩).map fun reading =>
      (.scalar .quoted reading.text, reading.cursor)
  if cursor.column = 0 && c = '%' then lexer.boundary? (directive? ·.skip)
  else if cursor.atMarker ['-', '-', '-'] then
    lexer.boundary? fun cursor => some (.documentStart, cursor.advance 3)
  else if cursor.atMarker ['.', '.', '.'] then
    lexer.boundary? fun cursor => some (.documentEnd, cursor.advance 3)
  else if c = '[' then lexer.openFlow? .flowList
  else if c = '\x7b' then lexer.openFlow? .flowMapping
  else if c = ']' then lexer.closeFlow? .flowListEnd
  else if c = '\x7d' then lexer.closeFlow? .flowMappingEnd
  else if c = ',' then
    lexer.dropCandidate?.map fun lexer => { lexer.emitChar .comma with mayBeginKey := true }
  else if c = '-' && endsWord next then lexer.begin? .blockList .item true
  else if c = '?' && (inFlow || endsWord next) then lexer.begin? .blockMapping .key !inFlow
  else if c = ':' && (inFlow || endsWord next) then lexer.value?
  else if c = '*' then lexer.node? (named .reference)
  else if c = '&' then lexer.node? (named .anchor)
  else if c = '!' then lexer.node? (tag? inFlow)
  else if c = '|' && !inFlow then lexer.block? false
  else if c = '>' && !inFlow then lexer.block? true
  else if c = '\x27' || c = '"' then lexer.node? quoted
  else if beginsPlain inFlow c next then lexer.plain?
  else none

/-- Take all tokens, up to the end of the text. -/
def run? : Nat → Lexer → Option Lexer
  | 0, _ => none
  | bound + 1, lexer => do
    let lexer ← (toNextToken lexer.bound lexer).dropStale?
    let lexer := lexer.unrollTo lexer.cursor.column
    match lexer.cursor.rest with
    | [] => (lexer.unrollTo (-1)).dropCandidate?
    | c :: _ => run? bound (← lexer.take? c)

end Lexer

/-- The tokens of a text, if it has the form of one in YAML. A mark of the byte order in front of it
means nothing. -/
def tokens? (text : String) : Option (List Token) := do
  let chars := match text.toList with
    | '\ufeff' :: chars => chars
    | chars => chars
  if chars.all isAllowed then
    let bound := chars.length + 1
    let lexer ← Lexer.run? bound { cursor := { rest := chars }, bound }
    return lexer.tokens.reverse
  else none

end OneHost.Yaml
