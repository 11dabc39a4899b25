import OneHost.Certificate.Element

/-!
# Trust anchors

A certificate that is to anchor trust is read strictly: tags are exact, lengths have their shortest
form, nothing follows where nothing is expected, no extension occurs twice, and none that is
critical is of an unknown kind. Names, dates and keys are not looked into. Certificates of the first
version have no version field and no extensions.
-/

namespace OneHost.Certificate.Anchor

/-- A reader of the front of some bytes. -/
abbrev Reader (α : Type) := Bytes → Option (α × Bytes)

/-- The first bytes of the kinds of elements that certificates consist of. -/
def booleanByte : UInt8 := 0x01
def integerByte : UInt8 := 0x02
def bitStringByte : UInt8 := 0x03
def octetStringByte : UInt8 := 0x04
def identifierByte : UInt8 := 0x06
def sequenceByte : UInt8 := 0x30
def versionByte : UInt8 := 0xa0
def extensionsByte : UInt8 := 0xa3

/-- Read a length in its shortest form, with at most four bytes after the first. -/
def readLength? (bytes : Bytes) : Option (Nat × Bytes) := do
  let (length, rest) ← Element.readLength? bytes
  let count := bytes.length - rest.length - 1
  let shortest := if count = 1 then 128 ≤ length else Nat.pow 256 (count - 1) ≤ length
  if count = 0 || (count ≤ 4 && shortest) then some (length, rest) else none

/-- Read an element whose first byte is `first`. Only content of less than 2¹⁶ - 1 bytes is
taken. -/
def element? (first : UInt8) : Reader Bytes
  | [] => none
  | byte :: rest => do
    let (length, rest) ← readLength? rest
    if byte = first && length < 65535 && length ≤ rest.length then
      some (rest.take length, rest.drop length)
    else none

/-- Read an element whose content is read by another reader to its end. -/
def within? {α : Type} (first : UInt8) (reader : Reader α) : Reader α := fun bytes => do
  let (content, rest) ← element? first bytes
  match ← reader content with
  | (value, []) => some (value, rest)
  | _ => none

/-- Read an element if there is any. -/
def optional? {α : Type} (first : UInt8) (reader : Reader α) (default : α) : Reader α :=
  fun bytes =>
  if bytes.head? = some first then reader bytes else some (default, bytes)

/-- Read a bit string that consists of whole bytes. -/
def bitString? : Reader Unit := fun bytes => do
  let (content, rest) ← element? bitStringByte bytes
  if content.head? = some 0 then some ((), rest) else none

/-- Read the version of a certificate that may have extensions. -/
def version? : Reader Unit :=
  within? versionByte fun bytes => do
    let (number, rest) ← element? integerByte bytes
    if number = [2] then some ((), rest) else none

/-- Read a truth value. -/
def boolean? : Reader Bool := fun bytes => do
  match ← element? booleanByte bytes with
  | ([0x00], rest) => some (false, rest)
  | ([0xff], rest) => some (true, rest)
  | _ => none

/-- An extension: its kind, whether it is critical, and its value. -/
structure Extension where
  kind : Bytes
  critical : Bool
  value : Bytes

/-- Read an extension. -/
def extension? : Reader Extension :=
  within? sequenceByte fun bytes => do
    let (kind, rest) ← element? identifierByte bytes
    let (critical, rest) ← optional? booleanByte boolean? false rest
    let (value, rest) ← element? octetStringByte rest
    return (⟨kind, critical, value⟩, rest)

/-- Read items until the bytes are used up. -/
def items? {α : Type} (item : Reader α) : Reader (List α) := fun bytes =>
  (Element.readAll? item bytes).map (·, [])

/-- The kinds of extensions that are understood, where the values of all but the use of the key are
one sequence: the use of the key, alternative names, basic constraints, constraints of names, places
of revocation lists, and extended uses of the key. -/
def keyUse : Bytes := [0x55, 0x1d, 15]
def sequenceKinds : List Bytes := [17, 19, 30, 31, 37].map fun last => [0x55, 0x1d, last]

/-- Whether an extension can be taken. -/
def Extension.isFit (extension : Extension) : Bool :=
  if extension.kind = keyUse then true
  else if sequenceKinds.contains extension.kind then
    match element? sequenceByte extension.value with
    | some (_, []) => true
    | _ => false
  else !extension.critical

/-- Whether extensions can be taken together: each of them can, and none that is understood occurs
twice. -/
def areFit (extensions : List Extension) : Bool :=
  let known := (extensions.map (·.kind)).filter fun kind => (keyUse :: sequenceKinds).contains kind
  extensions.all Extension.isFit && known.length = known.eraseDups.length

/-- Read the body of a certificate that has a version: serial number, algorithm, issuer, validity,
subject, key and extensions. The algorithm is handed on. -/
def body? : Reader Bytes := fun bytes => do
  let (_, rest) ← version? bytes
  let (_, rest) ← element? integerByte rest
  let (algorithm, rest) ← element? sequenceByte rest
  let (_, rest) ← element? sequenceByte rest
  let (_, rest) ← element? sequenceByte rest
  let (_, rest) ← element? sequenceByte rest
  let (_, rest) ← element? sequenceByte rest
  let (extensions, rest) ←
    optional? extensionsByte (within? extensionsByte (within? sequenceByte (items? extension?))) []
      rest
  if areFit extensions then some (algorithm, rest) else none

/-- Read a certificate that has a version. Body and signature name one algorithm. -/
def certificate? : Reader Unit :=
  within? sequenceByte fun bytes => do
    let (algorithm, rest) ← within? sequenceByte body? bytes
    let (other, rest) ← element? sequenceByte rest
    let (_, rest) ← bitString? rest
    if algorithm = other then some ((), rest) else none

/-- Read the body of a certificate of the first version. -/
def firstBody? : Reader Unit := fun bytes => do
  let (_, rest) ← element? integerByte bytes
  let (_, rest) ← element? sequenceByte rest
  let (_, rest) ← element? sequenceByte rest
  let (_, rest) ← element? sequenceByte rest
  let (_, rest) ← element? sequenceByte rest
  let (_, rest) ← element? sequenceByte rest
  return ((), rest)

/-- Read a certificate of the first version. -/
def firstCertificate? : Reader Unit :=
  within? sequenceByte fun bytes => do
    let (_, rest) ← within? sequenceByte firstBody? bytes
    let (_, rest) ← element? sequenceByte rest
    let (_, rest) ← element? bitStringByte rest
    return ((), rest)

/-- Whether a certificate can anchor trust. -/
def isFit (certificate : Bytes) : Bool :=
  [certificate?, firstCertificate?].any fun reader =>
    match reader certificate with
    | some ((), []) => true
    | _ => false

end OneHost.Certificate.Anchor
