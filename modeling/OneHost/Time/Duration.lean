import OneHost.Text.Number

/-!
# Lengths of time

A duration is a number of nanoseconds. `Duration.text` writes it in the greatest of its units, with
as many digits behind the point as it takes; `Duration.age` is the coarse form of reports.
-/

namespace OneHost

/-- A length of time. -/
structure Duration where
  nanoseconds : Nat
  deriving DecidableEq, Inhabited

namespace Duration

/-- A number of milliseconds. -/
def ofMilliseconds (milliseconds : Nat) : Duration := ⟨milliseconds * 1000000⟩

/-- A number of seconds. -/
def ofSeconds (seconds : Nat) : Duration := ⟨seconds * 1000000000⟩

/-- The whole seconds. -/
def seconds (duration : Duration) : Nat := duration.nanoseconds / 1000000000

/-- The nanoseconds beyond the whole seconds. -/
def subsecond (duration : Duration) : Nat := duration.nanoseconds % 1000000000

/-- The whole milliseconds. -/
def milliseconds (duration : Duration) : Nat := duration.nanoseconds / 1000000

/-- Digits without the zeros at their end. -/
def withoutFinalZeros (digits : List Char) : List Char :=
  (digits.reverse.dropWhile (· = '0')).reverse

/-- A number of nanoseconds in a unit of `10 ^ places` nanoseconds. -/
def inUnit (places : Nat) (unit : String) (nanoseconds : Nat) : String :=
  let whole := Text.decimal (nanoseconds / Nat.pow 10 places)
  let fraction :=
    withoutFinalZeros (Text.decimalPadded places (nanoseconds % Nat.pow 10 places)).toList
  if fraction.isEmpty || places = 0 then whole ++ unit
  else whole ++ "." ++ String.ofList fraction ++ unit

/-- The duration in the greatest unit that it fills. -/
def text (duration : Duration) : String :=
  if 1000000000 ≤ duration.nanoseconds then inUnit 9 "s" duration.nanoseconds
  else if 1000000 ≤ duration.nanoseconds then inUnit 6 "ms" duration.nanoseconds
  else if 1000 ≤ duration.nanoseconds then inUnit 3 "µs" duration.nanoseconds
  else inUnit 0 "ns" duration.nanoseconds

/-- The duration as an age: milliseconds, seconds, or minutes and seconds. -/
def age (duration : Duration) : String :=
  let seconds := duration.seconds
  if seconds = 0 then Text.decimal duration.milliseconds ++ "ms"
  else if seconds < 60 then Text.decimal seconds ++ "s"
  else Text.decimal (seconds / 60) ++ "m" ++ Text.decimalPadded 2 (seconds % 60) ++ "s"

end Duration

end OneHost
