import OneHost.Text.Number
import OneHost.Text.Quoted

/-!
# Dumps

A dump shows a value with all its parts, either on one line or with one line for each part. It is
meant for people who look for a fault, so nothing is left out.
-/

namespace OneHost.Text

/-- A value to be shown: a text that stands for itself, a row of values, a named value around some
others, a named record of fields, or a field. -/
inductive Dump where
  | atom (text : String)
  | row (items : List Dump)
  | around (name : String) (items : List Dump)
  | record (name : String) (fields : List Dump)
  | field (name : String) (value : Dump)

namespace Dump

/-- A text, quoted. -/
def quoted (text : String) : Dump := atom (quote text)

/-- A value that may be missing. -/
def option {α : Type} (show? : α → Dump) : Option α → Dump
  | some value => around "Some" [show? value]
  | none => atom "None"

/-- A truth value. -/
def truth (value : Bool) : Dump := atom (if value then "true" else "false")

/-- A natural number. -/
def natural (value : Nat) : Dump := atom (decimal value)

/-- The dump on one line. -/
def line : Dump → String
  | atom text => text
  | row items => "[" ++ ", ".intercalate (items.map line) ++ "]"
  | around name items => name ++ "(" ++ ", ".intercalate (items.map line) ++ ")"
  | record name fields =>
    name ++ " \x7b " ++ ", ".intercalate (fields.map line) ++ " \x7d"
  | field name value => name ++ ": " ++ line value

/-- Each part on lines of its own, further in than what is around it. -/
def block (margin : String) (front : String) (parts : List String) (back : String) : String :=
  if parts.isEmpty then front ++ back
  else
    front ++ "\n" ++ String.join (parts.map fun part => margin ++ "    " ++ part ++ ",\n") ++
      margin ++ back

/-- The dump on lines that begin with a margin. -/
def linesFrom : Dump → String → String
  | atom text, _ => text
  | row items, margin => block margin "[" (items.map (·.linesFrom (margin ++ "    "))) "]"
  | around name items, margin =>
    block margin (name ++ "(") (items.map (·.linesFrom (margin ++ "    "))) ")"
  | record name fields, margin =>
    block margin (name ++ " \x7b") (fields.map (·.linesFrom (margin ++ "    "))) "\x7d"
  | field name value, margin => name ++ ": " ++ value.linesFrom margin

/-- The dump with a line for each part. -/
def lines (dump : Dump) : String := dump.linesFrom ""

end Dump

end OneHost.Text
