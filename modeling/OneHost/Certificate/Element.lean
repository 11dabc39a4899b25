import OneHost.Text.Utf8

/-!
# Encoded elements

Certificates are trees of elements in the distinguished encoding rules (DER). An element is a tag, a
length and as many bytes of content. The class of a tag and the constructed flag are kept, but most
readers look at the tag number alone, so an element of another class is taken for one of the
expected kind. Lengths need not be written in the shortest form.
-/

namespace OneHost.Certificate

/-- The four classes of tags. -/
inductive TagClass where
  | universal
  | application
  | context
  | personal
  deriving DecidableEq

/-- The class that the two highest bits of a tag's first byte stand for. -/
def TagClass.ofByte (byte : UInt8) : TagClass :=
  match byte.toNat / 64 with
  | 0 => .universal
  | 1 => .application
  | 2 => .context
  | _ => .personal

/-- A tag, a length and as many bytes of content. -/
structure Element where
  tagClass : TagClass
  constructed : Bool
  tag : Nat
  content : Bytes

namespace Element

/-- Tag numbers of the kinds of elements that certificates use. -/
def booleanTag : Nat := 1
def integerTag : Nat := 2
def bitStringTag : Nat := 3
def octetStringTag : Nat := 4
def utf8StringTag : Nat := 12
def sequenceTag : Nat := 16
def setTag : Nat := 17
def numericStringTag : Nat := 18
def printableStringTag : Nat := 19
def ia5StringTag : Nat := 22
def utcTimeTag : Nat := 23
def generalizedTimeTag : Nat := 24

/-- Read the digits, in base 128, of a tag number that does not fit the first byte. At most `room`
bytes belong to it. -/
def readLongTag? (value : Nat) : Nat → Bytes → Option (Nat × Bytes)
  | 0, _ | _, [] => none
  | room + 1, byte :: rest =>
    let value := (value * 128 + byte.toNat % 128) % UInt32.size
    if byte < 0x80 then some (value, rest) else readLongTag? value room rest

/-- Read a tag: its class, whether the element is constructed, and its number. -/
def readTag? : Bytes → Option ((TagClass × Bool × Nat) × Bytes)
  | [] => none
  | byte :: rest =>
    let constructed := byte.toNat / 32 % 2 == 1
    let low := byte.toNat % 32
    if low = 31 then
      (readLongTag? 0 5 rest).map fun (tag, rest) => ((.ofByte byte, constructed, tag), rest)
    else some ((.ofByte byte, constructed, low), rest)

/-- The value of bytes as a number, most significant byte first. -/
def ofBigEndian (bytes : Bytes) : Nat :=
  bytes.foldl (fun value byte => value * 256 + byte.toNat) 0

/-- Read a definite length of less than 2⁶⁴, in the short or the long form. -/
def readLength? : Bytes → Option (Nat × Bytes)
  | [] => none
  | byte :: rest =>
    if byte < 0x80 then some (byte.toNat, rest)
    else
      let count := byte.toNat - 128
      let length := ofBigEndian (rest.take count)
      if count = 0 || count = 127 || rest.length < count || UInt64.size ≤ length then none
      else some (length, rest.drop count)

/-- Read an element from the front of some bytes. -/
def read? (bytes : Bytes) : Option (Element × Bytes) := do
  let ((tagClass, constructed, tag), rest) ← readTag? bytes
  let (length, rest) ← readLength? rest
  if length ≤ rest.length then
    some (⟨tagClass, constructed, tag, rest.take length⟩, rest.drop length)
  else none

/-- Read an element with a given tag number. -/
def readTagged? (tag : Nat) (bytes : Bytes) : Option (Element × Bytes) := do
  let (element, rest) ← read? bytes
  if element.tag = tag then some (element, rest) else none

/-- Read an element with a given tag number that is not constructed. -/
def readPrimitive? (tag : Nat) (bytes : Bytes) : Option (Element × Bytes) := do
  let (element, rest) ← readTagged? tag bytes
  if element.constructed then none else some (element, rest)

/-- Read the content of a sequence. -/
def readSequence? (bytes : Bytes) : Option (Bytes × Bytes) := do
  let (element, rest) ← readTagged? sequenceTag bytes
  return (element.content, rest)

/-- Read the content of an object identifier. Any element that is not constructed serves. -/
def readIdentifier? (bytes : Bytes) : Option (Bytes × Bytes) := do
  let (element, rest) ← read? bytes
  if element.constructed then none else some (element.content, rest)

/-- Read items from the front of some bytes as long as there are any: the items, and the bytes from
the first one on that cannot be read. -/
def readMany {α : Type} (item? : Bytes → Option (α × Bytes)) (bytes : Bytes) : List α × Bytes :=
  match item? bytes with
  | none => ([], bytes)
  | some (item, rest) =>
    if rest.length < bytes.length then
      let (items, rest) := readMany item? rest
      (item :: items, rest)
    else ([], bytes)
termination_by bytes.length

/-- Read bytes that consist of items throughout. -/
def readAll? {α : Type} (item? : Bytes → Option (α × Bytes)) (bytes : Bytes) : Option (List α) :=
  match readMany item? bytes with
  | (items, []) => some items
  | _ => none

/-- How many bits at the end of a byte are zero. -/
def trailingZeros (byte : UInt8) : Nat :=
  ((List.range 8).takeWhile fun bit => !byte.toNat.testBit bit).length

/-- Read a bit string. The first byte of its content tells how many bits of the last one are unused,
and those are zero. -/
def readBitString? (bytes : Bytes) : Option (Bytes × Bytes) := do
  let (element, rest) ← readPrimitive? bitStringTag bytes
  match element.content with
  | [] => none
  | unused :: bits =>
    match bits.getLast? with
    | none => if unused = 0 then some ([], rest) else none
    | some last => if trailingZeros last < unused.toNat then none else some (bits, rest)

/-- Whether the content of an integer is the shortest form of a value from 0 to 2³² - 1. -/
def isShortNatural : Bytes → Bool
  | [] => false
  | [byte] => byte < 0x80
  | first :: second :: rest =>
    first < 0x80 && !(first = 0 && second < 0x80) &&
      (if first = 0 then rest.length ≤ 3 else rest.length ≤ 2)

/-- Read an integer from 0 to 2³² - 1. -/
def readShortNatural? (bytes : Bytes) : Option (Nat × Bytes) := do
  let (element, rest) ← readPrimitive? integerTag bytes
  if isShortNatural element.content then some (ofBigEndian element.content, rest) else none

end Element

end OneHost.Certificate
