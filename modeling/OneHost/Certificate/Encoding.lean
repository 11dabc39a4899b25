import OneHost.Address.Ip
import OneHost.Certificate.Leaf

/-!
# Writing certificates

The counterpart of reading: `Content.encode` writes a certificate that states given names and a
given period of validity. Key and signature have the right form and no meaning, since reading does
not look at them.
-/

namespace OneHost.Certificate

/-- What a certificate is to state. The period of validity begins and ends on the first of January
of two years. -/
structure Content where
  domains : List String
  addresses : List Ip
  subjectName : Option String
  notBefore : Nat
  notAfter : Nat

namespace Element

/-- The bytes of a number, most significant first. -/
def bigEndian (number : Nat) : Bytes :=
  if number < 256 then [number.toUInt8] else bigEndian (number / 256) ++ [number.toUInt8]

/-- The shortest form of a length. -/
def encodeLength (length : Nat) : Bytes :=
  if length < 128 then [length.toUInt8]
  else
    let bytes := bigEndian length
    (128 + bytes.length).toUInt8 :: bytes

/-- An element with the given first byte. -/
def encode (first : UInt8) (content : Bytes) : Bytes :=
  first :: encodeLength content.length ++ content

/-- A sequence of encoded elements. -/
def encodeSequence (elements : List Bytes) : Bytes :=
  encode 0x30 elements.flatten

end Element

namespace Content

open Element (encode encodeSequence)

/-- An object identifier. -/
def identifier (kind : Bytes) : Bytes :=
  encode 0x06 kind

/-- The algorithm that key and signature name. -/
def algorithm : Bytes :=
  encodeSequence [identifier [0x2a, 0x86, 0x48, 0xce, 0x3d, 0x04, 0x03, 0x02]]

/-- A name with at most one attribute, a common name. -/
def name (common : Option String) : Bytes :=
  encodeSequence (common.toList.map fun text =>
    encode 0x31 (encodeSequence [identifier commonName, encode 0x0c (Text.encode text)]))

/-- The first of January of a year, with four digits. -/
def newYear (year : Nat) : Bytes :=
  encode 0x18 (Text.encode (Text.decimalPadded 4 year ++ "0101000000Z"))

/-- The bytes of an address, most significant first. -/
def addressBytes : Ip → Bytes
  | .v4 ip => [ip.a, ip.b, ip.c, ip.d]
  | .v6 ip => ip.groups.toList.flatMap fun group =>
    [(group.toNat / 256).toUInt8, (group.toNat % 256).toUInt8]

/-- The extension with the alternative names, if there are any. -/
def extensions (content : Content) : Bytes :=
  let names := content.domains.map (fun domain => encode 0x82 (Text.encode domain)) ++
    content.addresses.map fun address => encode 0x87 (addressBytes address)
  if names.isEmpty then []
  else
    encode 0xa3 (encodeSequence
      [encodeSequence [identifier altNameExtension, encode 0x04 (encodeSequence names)]])

/-- The encoded certificate. -/
def encode (content : Content) : Bytes :=
  let body := encodeSequence
    [Element.encode 0xa0 [0x02, 0x01, 0x02], [0x02, 0x01, 0x01], algorithm, name (some "ca"),
      encodeSequence [newYear content.notBefore, newYear content.notAfter],
      name content.subjectName, encodeSequence [algorithm, [0x03, 0x02, 0x00, 0x04]],
      extensions content]
  encodeSequence [body, algorithm, [0x03, 0x02, 0x00, 0x00]]

end Content

end OneHost.Certificate
