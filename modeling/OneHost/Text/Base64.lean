import OneHost.Text.Utf8

/-!
# Bytes as text

In base 64, a letter, a digit, `+` or `/` stands for six bits, so that four of them make three
bytes. A last group of two or three digits makes one or two bytes, with or without signs of padding
in the places of the missing digits. White space between digits means nothing.
-/

namespace OneHost.Text.Base64

/-- The digits in the order of their values. -/
def digits : List Char :=
  "ABCDEFGHIJKLMNOPQRSTUVWXYZabcdefghijklmnopqrstuvwxyz0123456789+/".toList

/-- The digit of a value below 64. -/
def digit (value : Nat) : Char :=
  digits[value]?.getD '='

/-- What one byte of a text in base 64 means. -/
inductive Symbol where
  | digit (value : Nat)
  | padding
  | blank
  | invalid
  deriving DecidableEq

/-- The meaning of one byte. -/
def Symbol.ofByte (byte : UInt8) : Symbol :=
  if [9, 10, 13, 32].contains byte.toNat then .blank
  else if byte = 61 then .padding
  else
    match digits.idxOf? (Char.ofNat byte.toNat) with
    | some value => .digit value
    | none => .invalid

/-- The bytes of a group of two to four digits, one fewer than there are digits. -/
def ofGroup : List Nat → Option Bytes
  | [] => some []
  | [a, b] => some [(a * 4 + b / 16).toUInt8]
  | [a, b, c] => some [(a * 4 + b / 16).toUInt8, (b % 16 * 16 + c / 4).toUInt8]
  | [a, b, c, d] =>
    some [(a * 4 + b / 16).toUInt8, (b % 16 * 16 + c / 4).toUInt8, (c % 4 * 64 + d).toUInt8]
  | _ => none

/-- The values of digits, if all symbols are digits. -/
def values? (symbols : List Symbol) : Option (List Nat) :=
  symbols.mapM fun
    | .digit value => some value
    | _ => none

/-- The bytes of a group of up to four symbols, of which the last ones may be padding. -/
def ofPadded (group : List Symbol) : Option Bytes :=
  match group with
  | [a, b, .padding, .padding] => values? [a, b] >>= ofGroup
  | [a, b, c, .padding] => values? [a, b, c] >>= ofGroup
  | _ => values? group >>= ofGroup

/-- The bytes of a block of up to eight symbols: two groups, of which only the last may be short or
padded. -/
def ofBlock (block : List Symbol) : Option Bytes :=
  if block.length ≤ 4 then ofPadded block
  else do
    return (← values? (block.take 4) >>= ofGroup) ++ (← ofPadded (block.drop 4))

/-- The bytes of symbols without blanks, block by block. -/
def ofSymbols (symbols : List Symbol) : Option Bytes :=
  if symbols.isEmpty then some []
  else do
    return (← ofBlock (symbols.take 8)) ++ (← ofSymbols (symbols.drop 8))
termination_by symbols.length
decreasing_by
  rename_i filled
  have := List.length_pos_iff.2 (mt List.isEmpty_iff.2 filled)
  rw [List.length_drop]
  omega

/-- The bytes that a text in base 64 stands for. -/
def decode? (text : Bytes) : Option Bytes :=
  ofSymbols ((text.map Symbol.ofByte).filter (· ≠ .blank))

/-- The digits of some bytes, padded to whole groups. -/
def encode : Bytes → List Char
  | [] => []
  | [a] => [digit (a.toNat / 4), digit (a.toNat % 4 * 16), '=', '=']
  | [a, b] =>
    [digit (a.toNat / 4), digit (a.toNat % 4 * 16 + b.toNat / 16), digit (b.toNat % 16 * 4), '=']
  | a :: b :: c :: rest =>
    digit (a.toNat / 4) :: digit (a.toNat % 4 * 16 + b.toNat / 16) ::
      digit (b.toNat % 16 * 4 + c.toNat / 64) :: digit (c.toNat % 64) :: encode rest

end OneHost.Text.Base64
