import OneHost.Text.Number

/-!
# Internet addresses

An address is of version 4 (four octets) or of version 6 (eight groups of sixteen bits). `Ip.text`
writes the canonical form: dotted decimal for version 4; for version 6 hexadecimal groups with the
first longest run of at least two zero groups left out, or the mixed form for an address that embeds
one of version 4. `Ip.parse?` reads every standard form.
-/

namespace OneHost

/-- An address of version 4. -/
structure Ipv4 where
  a : UInt8
  b : UInt8
  c : UInt8
  d : UInt8
  deriving DecidableEq, Inhabited

/-- An address of version 6. -/
structure Ipv6 where
  groups : Vector UInt16 8
  deriving DecidableEq

/-- An internet address. -/
inductive Ip where
  | v4 (address : Ipv4)
  | v6 (address : Ipv6)
  deriving DecidableEq

instance : Inhabited Ip := ⟨.v4 default⟩

open Text (decimal)

namespace Ipv4

/-- Dotted decimal. -/
def text (ip : Ipv4) : String :=
  decimal ip.a.toNat ++ "." ++ decimal ip.b.toNat ++ "." ++ decimal ip.c.toNat ++ "." ++
    decimal ip.d.toNat

/-- The address as a number, most significant octet first. -/
def toNat (ip : Ipv4) : Nat :=
  ((ip.a.toNat * 256 + ip.b.toNat) * 256 + ip.c.toNat) * 256 + ip.d.toNat

/-- The value of up to `width` digits at the front of a text, in base ten. -/
def readOctet? (text : List Char) : Option (UInt8 × List Char) :=
  let digits := (text.take 3).takeWhile (·.isDigit)
  let rest := text.drop digits.length
  let value := digits.foldl (fun value c => value * 10 + (c.toNat - '0'.toNat)) 0
  let zeroInFront := 1 < digits.length && digits.head? == some '0'
  let more := (rest.head?.map (·.isDigit)).getD false
  if digits.isEmpty || zeroInFront || more || 255 < value then none
  else some (value.toUInt8, rest)

/-- Read an octet that follows a dot. -/
def readDotOctet? : List Char → Option (UInt8 × List Char)
  | '.' :: rest => readOctet? rest
  | _ => none

/-- Read an address from the front of a text. Octets have no leading zeros. -/
def read? (text : List Char) : Option (Ipv4 × List Char) := do
  let (a, rest) ← readOctet? text
  let (b, rest) ← readDotOctet? rest
  let (c, rest) ← readDotOctet? rest
  let (d, rest) ← readDotOctet? rest
  return (⟨a, b, c, d⟩, rest)

end Ipv4

namespace Ipv6

/-- The version 4 address that the address embeds under `::ffff:0:0/96`, if it does. -/
def embedded? (ip : Ipv6) : Option Ipv4 :=
  match ip.groups.toList with
  | [0, 0, 0, 0, 0, 0xffff, high, low] =>
    some
      ⟨(high.toNat / 256).toUInt8, (high.toNat % 256).toUInt8, (low.toNat / 256).toUInt8,
        (low.toNat % 256).toUInt8⟩
  | _ => none

/-- How many zero groups stand at the front. -/
def leadingZeros (groups : List UInt16) : Nat :=
  (groups.takeWhile (· == 0)).length

/-- The position and length of the first longest run of zero groups from position `start` on. -/
def longestZeros (start : Nat) : List UInt16 → Nat × Nat
  | [] => (start, 0)
  | group :: rest =>
    let here := leadingZeros (group :: rest)
    let (position, length) := longestZeros (start + 1) rest
    if length ≤ here then (start, here) else (position, length)

/-- One group in hexadecimal. -/
def groupText (group : UInt16) : String :=
  String.ofList (Nat.toDigits 16 group.toNat)

/-- Groups with colons between them. -/
def groupsText (groups : List UInt16) : String :=
  ":".intercalate (groups.map groupText)

/-- The canonical form. -/
def text (ip : Ipv6) : String :=
  match ip.embedded? with
  | some inner => "::ffff:" ++ inner.text
  | none =>
    let groups := ip.groups.toList
    let (position, length) := longestZeros 0 groups
    if 1 < length then
      groupsText (groups.take position) ++ "::" ++ groupsText (groups.drop (position + length))
    else groupsText groups

/-- The address as a number, most significant group first. -/
def toNat (ip : Ipv6) : Nat :=
  ip.groups.toList.foldl (fun value group => value * 65536 + group.toNat) 0

/-- The value of a hexadecimal digit. -/
def hexDigit? (c : Char) : Option Nat :=
  if c.isDigit then some (c.toNat - '0'.toNat)
  else if 'a' ≤ c && c ≤ 'f' then some (c.toNat - 'a'.toNat + 10)
  else if 'A' ≤ c && c ≤ 'F' then some (c.toNat - 'A'.toNat + 10)
  else none

/-- Read one to four hexadecimal digits from the front of a text. -/
def readGroup? (text : List Char) : Option (UInt16 × List Char) :=
  let digits := text.takeWhile fun c => (hexDigit? c).isSome
  if digits.isEmpty || 4 < digits.length then none
  else
    let value := digits.foldl (fun value c => value * 16 + (hexDigit? c).getD 0) 0
    some (value.toUInt16, text.drop digits.length)

/-- A text without the colon that has to stand before any group but the first. -/
def afterColon? (first : Bool) (text : List Char) : Option (List Char) :=
  if first then some text
  else
    match text with
    | ':' :: rest => some rest
    | _ => none

/-- Read at most `room` groups with colons between them from the front of a text. A version 4
address may stand for the last two groups; whether one does is the second component. -/
def readGroups (first : Bool) : Nat → List Char → List UInt16 × Bool × List Char
  | 0, text => ([], false, text)
  | room + 1, text =>
    let here := afterColon? first text
    match (if 0 < room then here.bind Ipv4.read? else none) with
    | some (inner, rest) =>
      ([(inner.a.toNat * 256 + inner.b.toNat).toUInt16,
        (inner.c.toNat * 256 + inner.d.toNat).toUInt16], true, rest)
    | none =>
      match here.bind readGroup? with
      | none => ([], false, text)
      | some (group, rest) =>
        let (groups, mixed, rest) := readGroups false room rest
        (group :: groups, mixed, rest)

/-- The address with the given groups, if they are eight. -/
def ofGroups? (groups : List UInt16) : Option Ipv6 :=
  if exact : groups.length = 8 then some ⟨⟨groups.toArray, by simpa using exact⟩⟩ else none

/-- Read an address from the front of a text. -/
def read? (text : List Char) : Option (Ipv6 × List Char) :=
  let (head, mixed, rest) := readGroups true 8 text
  if head.length = 8 then (ofGroups? head).map (·, rest)
  else if mixed then none
  else
    match rest with
    | ':' :: ':' :: rest =>
      let (tail, _, rest) := readGroups true (7 - head.length) rest
      let zeros := List.replicate (8 - head.length - tail.length) 0
      (ofGroups? (head ++ zeros ++ tail)).map (·, rest)
    | _ => none

end Ipv6

namespace Ip

/-- The canonical form. -/
def text : Ip → String
  | v4 address => address.text
  | v6 address => address.text

/-- The address that a whole text stands for. -/
def parse? (text : String) : Option Ip :=
  match Ipv4.read? text.toList with
  | some (address, []) => some (.v4 address)
  | _ =>
    match Ipv6.read? text.toList with
    | some (address, []) => some (.v6 address)
    | _ => none

/-- The order key: addresses of version 4 come before those of version 6. -/
def key : Ip → Nat × Nat
  | v4 address => (0, address.toNat)
  | v6 address => (1, address.toNat)

/-- Version 4 before version 6, then by value. -/
def le (left right : Ip) : Bool :=
  left.key.1 < right.key.1 || (left.key.1 == right.key.1 && left.key.2 ≤ right.key.2)

end Ip

end OneHost
