import OneHost.Yaml.Tree

/-!
# What scalars mean

A scalar is a text, and some texts stand for something else where that is asked for: nothing, a
truth value or a number. Where nothing in particular is asked for, a plain scalar means the first of
these that it can, and a text otherwise, unless its tag says what it is.
-/

namespace OneHost.Yaml

/-- The text stands for nothing. -/
def isNull (text : String) : Bool :=
  ["~", "null", "Null", "NULL"].contains text

/-- The truth value that a text stands for. -/
def truth? (text : String) : Option Bool :=
  if ["true", "True", "TRUE"].contains text then some true
  else if ["false", "False", "FALSE"].contains text then some false
  else none

/-- The number that digits stand for in base 2, 8, 10 or 16. There is at least one digit. -/
def digits? (base : Nat) (text : List Char) : Option Nat := do
  let digits ← text.mapM hexDigit?
  if digits.isEmpty || digits.any (base ≤ ·) then none
  else return digits.foldl (fun value digit => value * base + digit) 0

/-- A number without a sign. Only decimal digits have no mark of their base, and they do not begin
with a superfluous zero. -/
def magnitude? : List Char → Option Nat
  | '0' :: 'x' :: digits => digits? 16 digits
  | '0' :: 'o' :: digits => digits? 8 digits
  | '0' :: 'b' :: digits => digits? 2 digits
  | '0' :: _ :: _ => none
  | digits => digits? 10 digits

/-- A number that is not negative, with an optional plus sign. -/
def unsigned? (text : String) : Option Nat :=
  match text.toList with
  | '+' :: digits => magnitude? digits
  | digits => magnitude? digits

/-- A number with an optional sign. -/
def integer? (text : String) : Option Int :=
  match text.toList with
  | '-' :: digits => (magnitude? digits).map fun value => -(value : Int)
  | _ => (unsigned? text).map fun value => (value : Int)

/-- Whether some characters are digits with at most one point among or around them. -/
def isFraction (text : List Char) : Bool :=
  let whole := text.takeWhile Char.isDigit
  match text.drop whole.length with
  | [] => !whole.isEmpty
  | '.' :: rest => rest.all Char.isDigit && !(whole.isEmpty && rest.isEmpty)
  | _ => false

/-- The text without a sign in front of it. -/
def withoutSign : List Char → List Char
  | '+' :: rest => rest
  | '-' :: rest => rest
  | text => text

/-- Whether a text stands for a number with a point or an exponent, for an infinite number or for
none. -/
def isDecimal (text : String) : Bool :=
  let chars := text.toList
  let rest := withoutSign chars
  let mantissa := rest.takeWhile fun c => c ≠ 'e' && c ≠ 'E'
  let isSuperfluous := 1 < rest.length && rest.head? = some '0' && rest.all Char.isDigit
  let exponent :=
    match rest.drop mantissa.length with
    | [] => true
    | _ :: exponent =>
      let digits := withoutSign exponent
      !digits.isEmpty && digits.all Char.isDigit
  [".inf", ".Inf", ".INF"].contains (String.ofList rest) ||
    [".nan", ".NaN", ".NAN"].contains text ||
    (!isSuperfluous && isFraction mantissa && exponent)

/-- What a node means where nothing in particular is asked for. -/
inductive Value where
  | nothing
  | truth (value : Bool)
  | number (value : Int)
  | decimal
  | text (value : String)
  | list (items : List Value)
  | mapping (entries : List (Value × Value))
  deriving Inhabited

/-- The tag of a kind of scalars. -/
def standardTag (kind : String) : String :=
  "tag:yaml.org,2002:" ++ kind

/-- Whether a tag is one that only the program that wrote it knows. -/
def isLocalTag (tag : Option String) : Bool :=
  tag.any fun tag => tag.toList.head? = some '!'

/-- Whether a number is at least minus the one power of two and less than the other. -/
def isBetween (low high : Nat) (value : Int) : Bool :=
  -(Nat.pow 2 low : Nat) ≤ value && value < (Nat.pow 2 high : Nat)

/-- What the number of a text means. One that is too great for 64 bits has no meaning at all, unless
it is too great for 128 bits as well. -/
def ofInteger? (value : Int) : Option Value :=
  if isBetween 63 64 value then some (.number value)
  else if isBetween 127 128 value then none
  else some .decimal

/-- What a plain scalar without a tag means. -/
def ofPlain? (text : String) : Option Value :=
  if text.isEmpty || isNull text then some .nothing
  else
    match truth? text, integer? text with
    | some value, _ => some (.truth value)
    | none, some value => ofInteger? value
    | none, none => some (if isDecimal text then .decimal else .text text)

/-- What a scalar means. -/
def ofScalar? (tag : Option String) (style : Style) (text : String) : Option Value :=
  match tag with
  | none => if style = .plain then ofPlain? text else some (.text text)
  | some tag =>
    if tag = standardTag "bool" then (truth? text).map .truth
    else if tag = standardTag "int" then (integer? text).bind ofInteger?
    else if tag = standardTag "float" then if isDecimal text then some .decimal else none
    else if tag = standardTag "null" then if isNull text then some .nothing else none
    else some (.text text)

namespace Source

/-- The node that a node or an alias stands for. -/
def follow (source : Source) : Document → Option Document
  | .reference number => source.named.lookup number
  | document => some document

/-- What a node means. Lists and mappings lie in one another at most `depth` deep. The state counts
how many more aliases may be followed. Local tags have no meaning. -/
def value? (source : Source) : Nat → Document → StateT Nat Option Value
  | depth, document => do
    match document with
    | .reference _ =>
      let left ← get
      if left = 0 then failure else set (left - 1)
    | _ => pure ()
    match depth, source.follow document with
    | _, some (.scalar tag style text) =>
      if isLocalTag tag then failure else (ofScalar? tag style text : Option Value)
    | depth + 1, some (.list tag items) =>
      if isLocalTag tag then failure else return .list (← items.mapM (source.value? depth))
    | depth + 1, some (.mapping tag entries) =>
      if isLocalTag tag then failure
      else
        return .mapping (← entries.mapM fun (key, value) => do
          return (← source.value? depth key, ← source.value? depth value))
    | _, _ => failure

/-- The entries of a mapping with texts for keys. A node that is left out is an empty mapping. -/
def entries? (source : Source) (document : Document) : Option (List (String × Document)) := do
  match ← source.follow document with
  | .mapping _ entries =>
    entries.mapM fun (key, value) => do
      match ← source.follow key with
      | .scalar _ _ name => return (name, value)
      | _ => none
  | .scalar _ .plain "" => return []
  | _ => none

/-- A scalar, whatever it would mean elsewhere. -/
def text? (source : Source) (document : Document) : Option String := do
  match ← source.follow document with
  | .scalar _ _ text => return text
  | _ => none

/-- The text of a scalar that can mean something of a kind: it is plain, or a block of lines with
the tag of that kind. -/
def textFor? (source : Source) (kind : String) (document : Document) : Option String := do
  match ← source.follow document with
  | .scalar _ .plain text => return text
  | .scalar (some tag) .literal text => if tag = standardTag kind then return text else none
  | _ => none

/-- A truth value. -/
def bool? (source : Source) (document : Document) : Option Bool := do
  truth? (← source.textFor? "bool" document)

/-- A number from 0 up to below a bound of at most 64 bits. -/
def natural? (source : Source) (bound : Nat) (document : Document) : Option Nat := do
  let value ← unsigned? (← source.textFor? "int" document)
  if value < bound then return value else none

/-- A number of 32 bits with a sign. -/
def int32? (source : Source) (document : Document) : Option Int32 := do
  let value ← integer? (← source.textFor? "int" document)
  if isBetween 31 31 value then return .ofInt value else none

/-- A text that may be nothing. -/
def optionalText? (source : Source) (document : Document) : Option (Option String) := do
  match ← source.follow document with
  | .scalar none .plain text => return if text.isEmpty || isNull text then none else some text
  | .scalar (some tag) .plain text =>
    if tag = standardTag "null" then if isNull text then return none else failure
    else return some text
  | .scalar _ _ text => return some text
  | _ => none

end Source

end OneHost.Yaml
