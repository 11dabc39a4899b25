/-!
# Numbers in text

A natural number is written in decimal digits with an optional plus sign in front. Reading one fails
at the first fault from the left: a character that is no digit, or a digit that takes the number
over the greatest one that is allowed.
-/

namespace OneHost.Text

/-- Why a text is not a number. -/
inductive NumberError where
  | empty
  | invalidDigit
  | tooLarge
  deriving DecidableEq, Repr

namespace NumberError

/-- The text of the fault. -/
def message : NumberError → String
  | empty => "cannot parse integer from empty string"
  | invalidDigit => "invalid digit found in string"
  | tooLarge => "number too large to fit in target type"

end NumberError

/-- Read the digits that follow a value, which stays at most `greatest`. -/
def readDigits (greatest : Nat) (value : Nat) : List Char → Except NumberError Nat
  | [] => .ok value
  | c :: rest =>
    if c.isDigit then
      let value := value * 10 + (c.toNat - '0'.toNat)
      if value ≤ greatest then readDigits greatest value rest else .error .tooLarge
    else .error .invalidDigit

/-- Read a natural number of at most `greatest`. -/
def readNumber (greatest : Nat) (text : String) : Except NumberError Nat :=
  match text.toList with
  | [] => .error .empty
  | ['+'] => .error .invalidDigit
  | '+' :: digits => readDigits greatest 0 digits
  | digits => readDigits greatest 0 digits

/-- The decimal digits of a number. -/
def decimal (number : Nat) : String :=
  String.ofList (Nat.toDigits 10 number)

/-- The decimal digits of a number, with zeros in front up to a width. -/
def decimalPadded (width number : Nat) : String :=
  let digits := Nat.toDigits 10 number
  String.ofList (List.replicate (width - digits.length) '0' ++ digits)

end OneHost.Text
