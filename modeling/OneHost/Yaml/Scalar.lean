import OneHost.Yaml.Cursor

/-!
# Scalars in text

A scalar is written as it is, between quotes, or as a block of indented lines. Each reader begins at
the first character of the scalar and gives its text together with the place behind it; there is
none where the scalar is not well-formed.
-/

namespace OneHost.Yaml

/-! ## Plain scalars -/

/-- The characters that structure a flow of lists and mappings. -/
def isFlowIndicator (c : Char) : Bool :=
  [',', '[', ']', '\x7b', '\x7d'].contains c

/-- The part of a plain scalar up to the next space. -/
def plainWord? (inFlow : Bool) : List Char → Option (List Char)
  | [] => some []
  | c :: rest =>
    if isSpace c then some []
    else if inFlow && c = ':' &&
        rest.head?.any (fun next => isFlowIndicator next || next = '?') then none
    else if c = ':' && endsWord rest.head? then some []
    else if inFlow && isFlowIndicator c then some []
    else (plainWord? inFlow rest).map (c :: ·)

/-- Whether a tab stands within the first columns of a line, given the column of the first
character. -/
def hasTabWithin (indent : Int) (column : Nat) : List Char → Bool
  | [] => false
  | c :: rest =>
    if isBreak c then hasTabWithin indent 0 rest
    else (c = '\t' && (column : Int) < indent) || hasTabWithin indent (column + 1) rest

/-- A scalar that has been read. -/
structure Reading where
  text : List Char
  cursor : Cursor
  endsInBreak : Bool := false

/-- Read the words of a plain scalar. Behind a line break it goes on only if it is indented by at
least `indent`, which does not matter in a flow. `joint` stands between the last word and the
next. -/
def readPlain? (inFlow : Bool) (indent : Int) : Nat → List Char → Reading → Option Reading
  | 0, _, reading => some reading
  | bound + 1, joint, reading =>
    let cursor := reading.cursor
    if cursor.atBoundary || cursor.peek? = some '#' then some reading
    else do
      let word ← plainWord? inFlow cursor.rest
      if word.isEmpty then return reading
      let text := reading.text ++ joint ++ word
      let cursor := cursor.advance word.length
      let (space, after) := cursor.takeWhile isSpace
      let breaks := breaksIn space
      if space.isEmpty then return { text, cursor }
      if hasTabWithin indent 0 (space.dropWhile (!isBreak ·)) then none
      else if !inFlow && (after.column : Int) < indent then
        return { text, cursor := after, endsInBreak := !breaks.isEmpty }
      else
        readPlain? inFlow indent bound (if breaks.isEmpty then space else folded breaks)
          { text, cursor := after, endsInBreak := !breaks.isEmpty }

/-! ## Quoted scalars -/

/-- What a character stands for behind a backslash. -/
def escaped? : Char → Option Char
  | '0' => some '\x00'
  | 'a' => some '\x07'
  | 'b' => some '\x08'
  | 't' | '\t' => some '\t'
  | 'n' => some '\n'
  | 'v' => some '\x0b'
  | 'f' => some '\x0c'
  | 'r' => some '\r'
  | 'e' => some '\x1b'
  | ' ' => some ' '
  | '"' => some '"'
  | '/' => some '/'
  | '\\' => some '\\'
  | 'N' => some '\u0085'
  | '_' => some '\u00a0'
  | 'L' => some '\u2028'
  | 'P' => some '\u2029'
  | _ => none

/-- How many hexadecimal digits follow a character behind a backslash. -/
def escapeWidth? : Char → Option Nat
  | 'x' => some 2
  | 'u' => some 4
  | 'U' => some 8
  | _ => none

/-- The value of a hexadecimal digit. -/
def hexDigit? (c : Char) : Option Nat :=
  if c.isDigit then some (c.toNat - '0'.toNat)
  else if 'a' ≤ c && c ≤ 'f' then some (c.toNat - 'a'.toNat + 10)
  else if 'A' ≤ c && c ≤ 'F' then some (c.toNat - 'A'.toNat + 10)
  else none

/-- The number that exactly `width` hexadecimal digits at the front of a text stand for. -/
def hexNumber? (width : Nat) (text : List Char) : Option Nat := do
  let digits ← (text.take width).mapM hexDigit?
  if digits.length < width then none
  else return digits.foldl (fun value digit => value * 16 + digit) 0

/-- The character with a code point, which is not a surrogate. -/
def charOf? (code : Nat) : Option Char :=
  if code.isValidChar then some (Char.ofNat code) else none

/-- A part of a quoted scalar up to the next space or the closing quote: its text, and how many
characters it takes. An escaped line break ends the part as well. -/
structure Part where
  text : List Char := []
  length : Nat := 0
  escapedBreak : Bool := false

/-- Put a character that takes `length` characters in front of a part. -/
def Part.cons (c : Char) (length : Nat) (part : Part) : Part :=
  { part with text := c :: part.text, length := part.length + length }

/-- Read a part between single quotes, where two quotes stand for one. -/
def singlePart : List Char → Part
  | [] => {}
  | '\x27' :: '\x27' :: rest => (singlePart rest).cons '\x27' 2
  | c :: rest => if isSpace c || c = '\x27' then {} else (singlePart rest).cons c 1

/-- Read a part between double quotes. -/
def doublePart? : List Char → Option Part
  | [] => some {}
  | ['\\'] => none
  | '\\' :: '\r' :: '\n' :: _ => some { length := 3, escapedBreak := true }
  | '\\' :: c :: rest =>
    if isBreak c then some { length := 2, escapedBreak := true }
    else
      match escaped? c with
      | some meant => (doublePart? rest).map (·.cons meant 2)
      | none => do
        let width ← escapeWidth? c
        let meant ← charOf? (← hexNumber? width rest)
        let part ← doublePart? (rest.drop width)
        return part.cons meant (width + 2)
  | c :: rest =>
    if isSpace c || c = '"' then some {} else (doublePart? rest).map (·.cons c 1)
termination_by text => text.length
decreasing_by all_goals simp <;> omega

/-- Read the parts of a quoted scalar up to the closing quote. -/
def readQuoted? (quote : Char) : Nat → Reading → Option Reading
  | 0, _ => none
  | bound + 1, reading => do
    let cursor := reading.cursor
    if cursor.atBoundary then none
    else
      let part ←
        if quote = '"' then doublePart? cursor.rest else some (singlePart cursor.rest)
      let text := reading.text ++ part.text
      let cursor := cursor.advance part.length
      if cursor.peek? = some quote then return { text, cursor := cursor.skip }
      else if cursor.rest.isEmpty then none
      else
        let (space, cursor) := cursor.takeWhile isSpace
        let breaks := breaksIn space
        let joint :=
          if part.escapedBreak then breaks else if breaks.isEmpty then space else folded breaks
        readQuoted? quote bound { text := text ++ joint, cursor }

/-! ## Blocks of lines -/

/-- What becomes of the line breaks at the end of a block. -/
inductive Chomping where
  | strip
  | clip
  | keep
  deriving DecidableEq

/-- How a block of lines is to be read: what becomes of its end, and by how much it is indented
beyond its surroundings if that is not to be seen from its first line. -/
structure BlockHeader where
  chomping : Chomping := .clip
  indent : Option Nat := none

/-- The chomping that a character asks for. -/
def chomping? : Char → Option Chomping
  | '+' => some .keep
  | '-' => some .strip
  | _ => none

/-- Read the header of a block, one sign and one digit in either order. The digit is not zero. -/
def blockHeader? (text : List Char) : Option (BlockHeader × Nat) :=
  let digit (c : Char) : Option Nat :=
    if c.isDigit then some (c.toNat - '0'.toNat) else none
  let checked (header : BlockHeader) (length : Nat) : Option (BlockHeader × Nat) :=
    if header.indent = some 0 then none else some (header, length)
  match text with
  | [] => some ({}, 0)
  | first :: rest =>
    match chomping? first, digit first with
    | some chomping, _ =>
      match rest.head?.bind digit with
      | some indent => checked ⟨chomping, some indent⟩ 2
      | none => checked ⟨chomping, none⟩ 1
    | none, some indent =>
      match rest.head?.bind chomping? with
      | some chomping => checked ⟨chomping, some indent⟩ 2
      | none => checked ⟨.clip, some indent⟩ 1
    | none, none => some ({}, 0)

/-- The indentation and the empty lines in front of a line of a block. -/
structure Margin where
  widest : Nat := 0
  breaks : List Char := []
  cursor : Cursor

/-- Pass over indentation and empty lines. Without a given indentation all spaces belong to it. -/
def margin? (indent : Option Nat) : Nat → Margin → Option Margin
  | 0, margin => some margin
  | bound + 1, margin =>
    let spaces := margin.cursor.rest.takeWhile (· = ' ')
    let room := (indent.map (· - margin.cursor.column)).getD spaces.length
    let cursor := margin.cursor.advance (min spaces.length room)
    let widest := max margin.widest cursor.column
    if indent.all (cursor.column < ·) && cursor.peek? = some '\t' then none
    else if endsLine cursor.peek? && cursor.peek?.isSome then
      let (lineBreak, cursor) := cursor.takeBreak
      margin? indent bound ⟨widest, margin.breaks ++ lineBreak, cursor⟩
    else some ⟨widest, margin.breaks, cursor⟩

/-- The lines of a block that have been read: their text, the break behind the last one, and whether
that one began with a blank. -/
structure Lines where
  text : List Char := []
  lastBreak : List Char := []
  blank : Bool := false

/-- Read the lines of a block that are indented by `indent`. When lines are folded, a break between
two lines that do not begin with a blank becomes a space. -/
def readLines? (isFolded : Bool) (indent : Nat) : Nat → Lines → Margin → Option (Lines × Margin)
  | 0, lines, margin => some (lines, margin)
  | bound + 1, lines, margin => do
    let cursor := margin.cursor
    if cursor.column ≠ indent || cursor.rest.isEmpty then return (lines, margin)
    let blank := cursor.peek?.any isBlank
    let joint :=
      if isFolded && lines.lastBreak = ['\n'] && !lines.blank && !blank then
        if margin.breaks.isEmpty then [' '] else margin.breaks
      else lines.lastBreak ++ margin.breaks
    let (line, cursor) := cursor.takeWhile (!isBreak ·)
    let (lastBreak, cursor) := cursor.takeBreak
    let margin ← margin? (some indent) bound { cursor }
    readLines? isFolded indent bound ⟨lines.text ++ joint ++ line, lastBreak, blank⟩ margin

/-- Read a block of lines behind its indicator. `outer` is the indentation of what it stands in. -/
def readBlock? (isFolded : Bool) (outer : Int) (bound : Nat) (cursor : Cursor) :
    Option Reading := do
  let (header, length) ← blockHeader? cursor.rest
  let cursor ← (cursor.advance length).endLine?
  let least := (max (outer + 1) 1).toNat
  let given := header.indent.map fun indent => (max outer 0).toNat + indent
  let margin ← margin? given bound { cursor }
  let indent := given.getD (max margin.widest least)
  let (lines, margin) ← readLines? isFolded indent bound {} margin
  let text := lines.text ++
    (if header.chomping = .strip then [] else lines.lastBreak) ++
    (if header.chomping = .keep then margin.breaks else [])
  return { text, cursor := margin.cursor }

end OneHost.Yaml
