import OneHost.Text.Split

/-!
# Punycode

Punycode (RFC 3492) writes a text of any script with ASCII letters, digits and hyphens: first the
ASCII characters of the text and a hyphen, then a sequence of numbers that says which other
characters to insert where. `decode?` reads it back. Numbers are written in base 36 with digits of
varying weight, and none of them may exceed 32 bits.
-/

namespace OneHost.Text.Punycode

/-- The value of a digit: letters of either case stand for 0 to 25, digits for 26 to 35. -/
def digit? (c : Char) : Option Nat :=
  if c.isLower then some (c.toNat - 'a'.toNat)
  else if c.isUpper then some (c.toNat - 'A'.toNat)
  else if c.isDigit then some (c.toNat - '0'.toNat + 26)
  else none

/-- The smallest digit that continues a number at position `position` rather than ending it. -/
def threshold (position bias : Nat) : Nat :=
  if position ≤ bias then 1 else if bias + 26 ≤ position then 26 else position - bias

/-- Divide by 35 until the value is at most 455, adding 36 for each division. -/
def scale (delta : Nat) : Nat × Nat :=
  if 455 < delta then
    let (least, steps) := scale (delta / 35)
    (least, steps + 36)
  else (delta, 0)
termination_by delta
decreasing_by exact Nat.div_lt_self (by omega) (by omega)

/-- The bias for the next number, from the size of the last one and the length of the text. -/
def adapt (delta length : Nat) (first : Bool) : Nat :=
  let damped := if first then delta / 700 else delta / 2
  let (least, steps) := scale (damped + damped / length)
  steps + 36 * least / (least + 38)

/-- The bound that no number reached while decoding may exceed. -/
def limit : Nat := UInt32.size

/-- The decoder between two numbers: the text so far, the index and the code point of the last
insertion, and the bias. -/
structure State where
  output : List Char
  index : Nat
  code : Nat
  bias : Nat

/-- The number being read: its value is added to the index digit by digit. -/
structure Pending where
  index : Nat
  weight : Nat
  position : Nat

namespace Pending

/-- The number before its first digit. -/
def start (state : State) : Pending :=
  { index := state.index, weight := 1, position := 36 }

end Pending

/-- Insert the character that the finished number selects. -/
def State.insert? (state : State) (index : Nat) : Option State :=
  let length := state.output.length + 1
  let code := state.code + index / length
  if code < limit then
    if code.isValidChar then
      let place := index % length
      some
        { output := state.output.insertIdx place (Char.ofNat code)
          index := place + 1
          code := code
          bias := adapt (index - state.index) length (state.index == 0) }
    else none
  else none

/-- Read the numbers; `pending` is the one whose digits come next, if one has begun. -/
def decodeNumbers (state : State) : Option Pending → List Char → Option (List Char)
  | none, [] => some state.output
  | some _, [] => none
  | begun, c :: rest =>
    let number := begun.getD (.start state)
    match digit? c with
    | none => none
    | some digit =>
      let index := number.index + digit * number.weight
      if digit * number.weight < limit && index < limit then
        let bound := threshold number.position state.bias
        if digit < bound then
          match state.insert? index with
          | none => none
          | some next => decodeNumbers next none rest
        else if number.weight * (36 - bound) < limit then
          decodeNumbers state
            (some
              { index := index
                weight := number.weight * (36 - bound)
                position := number.position + 36 })
            rest
        else none
      else none

/-- Decode a text. The literal part is what precedes the last hyphen and must be ASCII. -/
def decode? (text : List Char) : Option (List Char) :=
  let (literal, numbers) :=
    match splitLast? '-' text with
    | some (literal, numbers) => if literal.isEmpty then ([], text) else (literal, numbers)
    | none => ([], text)
  if literal.all (·.toNat < 0x80) then
    decodeNumbers { output := literal, index := 0, code := 128, bias := 72 } none numbers
  else none

end OneHost.Text.Punycode
