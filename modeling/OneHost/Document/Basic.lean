import OneHost.Text.Number
import OneHost.Text.Utf8

/-!
# Documents

A document is a tree of scalars, lists and mappings, as files and messages hold it. A plain scalar
is written without quotes, and what it stands for is for its reader to say: a text, a number, a
truth value or nothing. Mappings keep the order of their entries.
-/

namespace OneHost

/-- How a scalar is written: bare, as a block that keeps its lines, or in another quoted form. -/
inductive Style where
  | plain
  | literal
  | quoted
  deriving DecidableEq, Repr, Inhabited

/-- A tree of data. A node may have a tag, and an alias stands for the node of an anchor. -/
inductive Document where
  | scalar (tag : Option String) (style : Style) (text : String)
  | list (tag : Option String) (items : List Document)
  | mapping (tag : Option String) (entries : List (Document × Document))
  | reference (anchor : Nat)
  deriving Inhabited

namespace Document

/-- How many nodes there are, where lists and mappings count twice, for their two ends. -/
def size : Document → Nat
  | scalar .. | reference _ => 1
  | list _ items => 2 + (items.map size).foldr (· + ·) 0
  | mapping _ entries =>
    2 + (entries.attach.map fun entry => entry.1.1.size + entry.1.2.size).foldr (· + ·) 0
termination_by document => sizeOf document
decreasing_by
  · have := List.sizeOf_lt_of_mem ‹_›
    simp
    omega
  all_goals
    have := List.sizeOf_lt_of_mem entry.2
    rcases entry with ⟨⟨key, value⟩, member⟩
    simp at this ⊢
    omega

/-! ## Making documents -/

/-- A text. -/
def text (value : String) : Document := .scalar none .quoted value

/-- A bare word. -/
def word (value : String) : Document := .scalar none .plain value

/-- A natural number. -/
def natural (value : Nat) : Document := word (Text.decimal value)

/-- A truth value. -/
def truth (value : Bool) : Document := word (if value then "true" else "false")

/-- Nothing. -/
def absent : Document := word "null"

/-- A list. -/
def array (items : List Document) : Document := .list none items

/-- A list of texts. -/
def texts (values : List String) : Document := array (values.map text)

/-- A mapping with texts for keys. -/
def object (fields : List (String × Document)) : Document :=
  .mapping none (fields.map fun (name, value) => (text name, value))

/-- A value, or nothing. -/
def option {α : Type} (write : α → Document) : Option α → Document
  | some value => write value
  | none => absent

/-- Some bytes: a text if they are one, or else their hexadecimal digits. -/
def bytes (value : Bytes) : Document :=
  match Text.decode? value with
  | some value => text value
  | none =>
    object [("hex", text (String.ofList (value.flatMap fun byte =>
      [Nat.digitChar (byte.toNat / 16), Nat.digitChar (byte.toNat % 16)])))]

/-! ## Taking documents apart -/

/-- The value of a field, unless there is none or it is nothing. -/
def field? (document : Document) (name : String) : Option Document :=
  match document with
  | .mapping _ entries =>
    let found : Option Document := entries.findSome? fun
      | (.scalar _ _ key, value) => if key = name then some value else none
      | _ => none
    match found with
    | some (.scalar none .plain "null") => none
    | found => found
  | _ => none

/-- The value of a field that must be there. -/
def need (document : Document) (name : String) : Except String Document :=
  match document.field? name with
  | some value => .ok value
  | none => .error ("missing field " ++ name)

/-- A text. -/
def asText : Document → Except String String
  | .scalar _ .quoted text => .ok text
  | _ => .error "not a text"

/-- A natural number. -/
def asNat : Document → Except String Nat
  | .scalar _ .plain digits =>
    match digits.toNat? with
    | some value => .ok value
    | none => .error "not a number"
  | _ => .error "not a number"

/-- A truth value. -/
def asBool : Document → Except String Bool
  | .scalar _ .plain "true" => .ok true
  | .scalar _ .plain "false" => .ok false
  | _ => .error "not a truth value"

/-- A list. -/
def asList : Document → Except String (List Document)
  | .list _ items => .ok items
  | _ => .error "not a list"

/-- The entries of a mapping whose keys are texts. -/
def asFields : Document → Except String (List (String × Document))
  | .mapping _ entries => entries.mapM fun (key, value) => do return (← key.asText, value)
  | _ => .error "not a mapping"

/-- The bytes of hexadecimal digits, two for each. -/
def ofHex : List Char → Except String Bytes
  | high :: low :: rest => do
    let digit (c : Char) : Except String Nat :=
      if c.isDigit then .ok (c.toNat - '0'.toNat)
      else if 'a' ≤ c.toLower ∧ c.toLower ≤ 'f' then .ok (c.toLower.toNat - 'a'.toNat + 10)
      else .error "not a hexadecimal digit"
    return ((← digit high) * 16 + (← digit low)).toUInt8 :: (← ofHex rest)
  | [] => .ok []
  | [_] => .error "an odd number of hexadecimal digits"

section Fields

variable (document : Document) (name : String)

/-- A field, read in some way. -/
def at? {α : Type} (read : Document → Except String α) : Except String (Option α) :=
  (document.field? name).mapM read

/-- A field that must be there, read in some way. -/
def get {α : Type} (read : Document → Except String α) : Except String α := do
  read (← document.need name)

/-- A field read in some way, or a default. -/
def getOr {α : Type} (read : Document → Except String α) (default : α) : Except String α := do
  return (← document.at? name read).getD default

/-- A field that is a text. -/
def textAt : Except String String := document.get name asText

/-- A field that is a text, or a default. -/
def textOr (default : String) : Except String String := document.getOr name asText default

/-- A field that is a natural number. -/
def natAt : Except String Nat := document.get name asNat

/-- A field that is a natural number, or a default. -/
def natOr (default : Nat) : Except String Nat := document.getOr name asNat default

/-- A field that is a truth value, or a default. -/
def boolOr (default : Bool) : Except String Bool := document.getOr name asBool default

/-- A field that is a list whose items are read in some way. Without the field there are none. -/
def listAt {α : Type} (read : Document → Except String α) : Except String (List α) := do
  (← document.getOr name asList []).mapM read

end Fields

end Document

end OneHost
