import OneHost.Certificate.Moment

/-!
# Leaf certificates

The parts of a server's certificate that name hosts: the attributes of its subject and the names of
its alternative-name extension. `Leaf.read?` checks the form of the whole certificate but not its
signature, and ignores bytes that follow it.

Names are read leniently, as far as they have the expected form; the alternative names are read
strictly, so that a certificate whose names cannot be trusted to be complete is refused.
-/

namespace OneHost.Certificate

/-- One attribute of a subject: its kind, and the tag and bytes of its value. -/
structure Attribute where
  kind : Bytes
  tag : Nat
  value : Bytes
  deriving DecidableEq

/-- A name of the alternative-name extension. Only domain names matter here. -/
inductive AltName where
  | domain (name : String)
  | other

/-- An extension: its kind and its encoded value. -/
structure Extension where
  kind : Bytes
  value : Bytes

/-- What a server's certificate says about names. -/
structure Leaf where
  notBefore : Moment
  notAfter : Moment
  subject : List Attribute
  altNames : Option (List AltName)

/-- The kind of the attribute that holds a common name. -/
def commonName : Bytes := [0x55, 0x04, 0x03]

/-- The kind of the extension that holds alternative names. -/
def altNameExtension : Bytes := [0x55, 0x1d, 0x11]

namespace Attribute

/-- The tags of the kinds of text that a common name is read from. -/
def textTags : List Nat :=
  [Element.utf8StringTag, Element.numericStringTag, Element.printableStringTag,
    Element.ia5StringTag]

/-- The text of the value, if it is of a kind of text that is read, and well-formed. -/
def text? (entry : Attribute) : Option String :=
  if textTags.contains entry.tag then Text.decode? entry.value else none

/-- Read one attribute. -/
def read? (bytes : Bytes) : Option (Attribute × Bytes) := do
  let (content, rest) ← Element.readSequence? bytes
  let (kind, content) ← Element.readIdentifier? content
  let (value, _) ← Element.read? content
  return ({ kind, tag := value.tag, value := value.content }, rest)

/-- Read a set of at least one attribute. -/
def readSet? (bytes : Bytes) : Option (List Attribute × Bytes) := do
  let (set, rest) ← Element.readTagged? Element.setTag bytes
  match Element.readMany read? set.content with
  | ([], _) => none
  | (attributes, _) => some (attributes, rest)

/-- Read a name: a sequence of sets of attributes. What follows the first malformed set is
ignored. -/
def readName? (bytes : Bytes) : Option (List Attribute × Bytes) := do
  let (content, rest) ← Element.readSequence? bytes
  return ((Element.readMany readSet? content).1.flatten, rest)

end Attribute

namespace AltName

/-- The name that an element of the extension holds. -/
def ofElement? (element : Element) : Option AltName :=
  if element.tagClass ≠ .context then none
  else
    match element.tag with
    | 0 => (Element.readIdentifier? element.content).map fun _ => other
    | 1 | 6 => (Text.decode? element.content).map fun _ => other
    | 2 => (Text.decode? element.content).map domain
    | 3 | 5 | 7 | 8 => some other
    | 4 =>
      match Attribute.readName? element.content with
      | some (_, []) => some other
      | _ => none
    | _ => none

/-- Read one name. -/
def read? (bytes : Bytes) : Option (AltName × Bytes) := do
  let (element, rest) ← Element.read? bytes
  return (← ofElement? element, rest)

/-- Read the value of the extension: a sequence of names, each of a known kind. -/
def readExtension? (bytes : Bytes) : Option (List AltName) := do
  let (content, _) ← Element.readSequence? bytes
  Element.readAll? read? content

end AltName

namespace Extension

/-- The bytes after an optional flag that tells whether the extension is critical. -/
def afterFlag (bytes : Bytes) : Bytes :=
  match Element.readPrimitive? Element.booleanTag bytes with
  | some (flag, rest) => if flag.content.length = 1 then rest else bytes
  | none => bytes

/-- Read one extension. -/
def read? (bytes : Bytes) : Option (Extension × Bytes) := do
  let (content, rest) ← Element.readSequence? bytes
  let (kind, content) ← Element.readIdentifier? content
  let (value, _) ← Element.readPrimitive? Element.octetStringTag (afterFlag content)
  return ({ kind, value := value.content }, rest)

/-- The extensions that the rest of a certificate's body holds: none, or an element with tag number
3 whose content is one sequence of extensions that ends the body. -/
def readFinal? (bytes : Bytes) : Option (List Extension) :=
  if bytes.isEmpty then some []
  else do
    let ((_, _, tag), rest) ← Element.readTag? bytes
    let (_, rest) ← Element.readLength? rest
    if tag ≠ 3 then none
    else
      match Element.readSequence? rest with
      | some (content, []) => Element.readAll? read? content
      | _ => none

end Extension

namespace Leaf

/-- Read an algorithm: an identifier and, unless the sequence ends there, an element. -/
def readAlgorithm? (bytes : Bytes) : Option (Unit × Bytes) := do
  let (content, rest) ← Element.readSequence? bytes
  let (_, parameters) ← Element.readIdentifier? content
  if parameters.isEmpty then some ((), rest)
  else do
    let _ ← Element.read? parameters
    some ((), rest)

/-- The bytes after the version, which may be missing. -/
def afterVersion? (bytes : Bytes) : Option Bytes := do
  let (element, rest) ← Element.read? bytes
  if element.tagClass = .context && element.tag = 0 then do
    let _ ← Element.readShortNatural? element.content
    some rest
  else some bytes

/-- Read the two ends of the period of validity. -/
def readValidity? (bytes : Bytes) : Option ((Moment × Moment) × Bytes) := do
  let (content, rest) ← Element.readSequence? bytes
  let (notBefore, content) ← Moment.read? content
  let (notAfter, _) ← Moment.read? content
  return ((notBefore, notAfter), rest)

/-- Read a public key: an algorithm and a bit string. -/
def readPublicKey? (bytes : Bytes) : Option (Unit × Bytes) := do
  let (content, rest) ← Element.readSequence? bytes
  let (_, content) ← readAlgorithm? content
  let _ ← Element.readBitString? content
  return ((), rest)

/-- The bytes after the unique identifier with tag `tag`, which may be missing. -/
def afterUniqueId? (tag : Nat) (bytes : Bytes) : Option Bytes :=
  if bytes.isEmpty then some bytes
  else do
    let (element, rest) ← Element.read? bytes
    if element.tagClass = .context && element.tag = tag then
      if element.constructed || element.content.isEmpty then none else some rest
    else some bytes

/-- The alternative names among some extensions. The extension must not be repeated, and its value
must have the right form throughout. -/
def altNames? (extensions : List Extension) : Option (Option (List AltName)) :=
  match extensions.filter (·.kind == altNameExtension) with
  | [] => some none
  | [extension] => (AltName.readExtension? extension.value).map some
  | _ => none

/-- Read the body of a certificate. -/
def readBody? (bytes : Bytes) : Option Leaf := do
  let rest ← afterVersion? bytes
  let (_, rest) ← Element.readTagged? Element.integerTag rest
  let (_, rest) ← readAlgorithm? rest
  let (_, rest) ← Attribute.readName? rest
  let ((notBefore, notAfter), rest) ← readValidity? rest
  let (subject, rest) ← Attribute.readName? rest
  let (_, rest) ← readPublicKey? rest
  let rest ← afterUniqueId? 1 rest
  let rest ← afterUniqueId? 2 rest
  let extensions ← Extension.readFinal? rest
  let altNames ← altNames? extensions
  return { notBefore, notAfter, subject, altNames }

/-- Read a certificate: its body, the algorithm of its signature, and the signature. -/
def read? (bytes : Bytes) : Option Leaf := do
  let (content, _) ← Element.readSequence? bytes
  let (body, content) ← Element.readSequence? content
  let leaf ← readBody? body
  let (_, content) ← readAlgorithm? content
  let _ ← Element.readBitString? content
  return leaf

end Leaf

end OneHost.Certificate
