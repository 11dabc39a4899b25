import OneHost.Certificate.Element

/-!
# Moments in certificates

A certificate gives the two ends of its period of validity as texts of digits: with a year of two
digits (1950 to 2049), or with a year of four. Reading one checks that the date exists and that the
time is one of a day.
-/

namespace OneHost.Certificate

/-- A date and a time of day. -/
structure Moment where
  year : Nat
  month : Nat
  day : Nat
  hour : Nat
  minute : Nat
  second : Nat

namespace Moment

/-- Whether the year has a 29th of February. -/
def isLeapYear (year : Nat) : Bool :=
  year % 4 == 0 && (year % 100 != 0 || year % 400 == 0)

/-- The number of days of a month, and zero for a month that does not exist. -/
def daysInMonth (year month : Nat) : Nat :=
  match month with
  | 1 | 3 | 5 | 7 | 8 | 10 | 12 => 31
  | 4 | 6 | 9 | 11 => 30
  | 2 => if isLeapYear year then 29 else 28
  | _ => 0

/-- Whether the date exists and the time is one of a day. -/
def isReal (moment : Moment) : Bool :=
  1 ≤ moment.day && moment.day ≤ daysInMonth moment.year moment.month && moment.hour ≤ 23 &&
    moment.minute ≤ 59 && moment.second ≤ 59

/-- Read two digits. -/
def readPair? : List Char → Option (Nat × List Char)
  | high :: low :: rest =>
    if high.isDigit && low.isDigit then
      some ((high.toNat - '0'.toNat) * 10 + (low.toNat - '0'.toNat), rest)
    else none
  | _ => none

/-- Whether the text is a time zone: `Z`, or a sign with hours and minutes. -/
def isZone : List Char → Bool
  | ['Z'] => true
  | sign :: rest =>
    (sign == '+' || sign == '-') &&
      match readPair? rest with
      | some (hours, rest) =>
        match readPair? rest with
        | some (minutes, []) => hours ≤ 25 && minutes ≤ 59
        | _ => false
      | none => false
  | [] => false

/-- Whether the text is a fraction of a second of at most three digits and the letter `Z`, or that
letter alone. -/
def isFractionAndZ : List Char → Bool
  | ['Z'] => true
  | '.' :: rest => rest.getLast? == some 'Z' && rest.length ≤ 4 && rest.dropLast.all (·.isDigit)
  | _ => false

/-- Read a moment with a year of two digits. The seconds may be missing. -/
def ofShort? (text : List Char) : Option Moment := do
  let (year, rest) ← readPair? text
  let (month, rest) ← readPair? rest
  let (day, rest) ← readPair? rest
  let (hour, rest) ← readPair? rest
  let (minute, rest) ← readPair? rest
  let (second, rest) ← if rest.length < 2 then some (0, rest) else readPair? rest
  let moment : Moment :=
    { year := if year < 50 then 2000 + year else 1900 + year
      month, day, hour, minute, second }
  if isZone rest && moment.isReal then some moment else none

/-- Read a moment with a year of four digits, in Greenwich time. -/
def ofLong? (text : List Char) : Option Moment := do
  let (century, rest) ← readPair? text
  let (year, rest) ← readPair? rest
  let (month, rest) ← readPair? rest
  let (day, rest) ← readPair? rest
  let (hour, rest) ← readPair? rest
  let (minute, rest) ← readPair? rest
  let (second, rest) ← readPair? rest
  let moment : Moment := { year := century * 100 + year, month, day, hour, minute, second }
  if isFractionAndZ rest && moment.isReal then some moment else none

/-- The ASCII text that some bytes spell, if they do. -/
def ascii? (bytes : Bytes) : Option (List Char) :=
  if bytes.all (· < 0x80) then some (bytes.map fun byte => Char.ofNat byte.toNat) else none

/-- Read an element that holds a moment. -/
def read? (bytes : Bytes) : Option (Moment × Bytes) := do
  let (element, rest) ← Element.read? bytes
  let text ← ascii? element.content
  if element.tag = Element.utcTimeTag then (ofShort? text).map (·, rest)
  else if element.tag = Element.generalizedTimeTag then (ofLong? text).map (·, rest)
  else none

end Moment

end OneHost.Certificate
