/-!
# Text as bytes

Bytes on a wire or in a file are text when they are well-formed UTF-8. `encode` writes a text,
`decode?` reads bytes that are text throughout, and `decodeLossy` reads any bytes, with a
replacement character for each maximal ill-formed part.
-/

namespace OneHost

/-- A sequence of bytes. -/
abbrev Bytes := List UInt8

namespace Text

/-- The UTF-8 form of a text. -/
def encode (text : String) : Bytes :=
  text.toUTF8.toList

/-- The text whose UTF-8 form the bytes are. -/
def decode? (bytes : Bytes) : Option String :=
  String.fromUTF8? ⟨bytes.toArray⟩

/-- What stands at the front of some bytes: a character, or a part that begins none, with the number
of bytes it takes after the first. -/
structure Lead where
  char : Option Char
  more : Nat

/-- The low six bits of a continuation byte. -/
def continuation? (low high : UInt8) : Bytes → Option Nat
  | byte :: _ => if low ≤ byte && byte ≤ high then some (byte.toNat % 64) else none
  | [] => none

/-- Read the front of some bytes, given the first of them. The second byte is bounded so that no
character has two forms and none is a surrogate or above U+10FFFF. -/
def lead (first : UInt8) (rest : Bytes) : Lead :=
  if first < 0x80 then ⟨some (Char.ofNat first.toNat), 0⟩
  else if 0xc2 ≤ first && first ≤ 0xdf then
    match continuation? 0x80 0xbf rest with
    | some x => ⟨some (Char.ofNat ((first.toNat - 0xc0) * 64 + x)), 1⟩
    | none => ⟨none, 0⟩
  else if 0xe0 ≤ first && first ≤ 0xef then
    let low := if first = 0xe0 then 0xa0 else 0x80
    let high := if first = 0xed then 0x9f else 0xbf
    match continuation? low high rest with
    | some x =>
      match continuation? 0x80 0xbf (rest.drop 1) with
      | some y => ⟨some (Char.ofNat ((first.toNat - 0xe0) * 4096 + x * 64 + y)), 2⟩
      | none => ⟨none, 1⟩
    | none => ⟨none, 0⟩
  else if 0xf0 ≤ first && first ≤ 0xf4 then
    let low := if first = 0xf0 then 0x90 else 0x80
    let high := if first = 0xf4 then 0x8f else 0xbf
    match continuation? low high rest with
    | some x =>
      match continuation? 0x80 0xbf (rest.drop 1) with
      | some y =>
        match continuation? 0x80 0xbf (rest.drop 2) with
        | some z =>
          ⟨some (Char.ofNat ((first.toNat - 0xf0) * 262144 + x * 4096 + y * 64 + z)), 3⟩
        | none => ⟨none, 2⟩
      | none => ⟨none, 1⟩
    | none => ⟨none, 0⟩
  else ⟨none, 0⟩

/-- The characters of any bytes, with U+FFFD for each part that is not well-formed. -/
def decodeLossy : Bytes → List Char
  | [] => []
  | first :: rest =>
    let front := lead first rest
    front.char.getD '\ufffd' :: decodeLossy (rest.drop front.more)
termination_by bytes => bytes.length
decreasing_by simp only [List.length_drop, List.length_cons]; omega

end Text

end OneHost
