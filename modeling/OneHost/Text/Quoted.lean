import OneHost.Text.Printable
import OneHost.Text.Utf8

/-!
# Quoted text

Messages and dumps write a text between double quotes. A character that is not printable, or that
would combine with its predecessor, is written by its code point, and the quote and the backslash
are escaped, so that the quoted form shows exactly which text it stands for.
-/

namespace OneHost.Text

/-- The lower-case hexadecimal digits of a number, without leading zeros. -/
def hexDigits (number : Nat) : List Char :=
  Nat.toDigits 16 number

/-- The form of one character between double quotes. -/
def quoteChar (c : Char) : List Char :=
  if c = '\x00' then ['\\', '0']
  else if c = '\t' then ['\\', 't']
  else if c = '\r' then ['\\', 'r']
  else if c = '\n' then ['\\', 'n']
  else if c = '"' then ['\\', '"']
  else if c = '\\' then ['\\', '\\']
  else if extendsGrapheme c || !isPrintable c then
    ['\\', 'u', '\x7b'] ++ hexDigits c.toNat ++ ['\x7d']
  else [c]

/-- The text between double quotes. -/
def quote (text : String) : String :=
  String.ofList ('"' :: text.toList.flatMap quoteChar ++ ['"'])

/-- A list of texts, each quoted, between brackets. -/
def quoteList (texts : List String) : String :=
  "[" ++ ", ".intercalate (texts.map quote) ++ "]"

/-- The form of one character in the name of a file, where single quotes are escaped as well. -/
def quoteNameChar (c : Char) : List Char :=
  if c = '\x27' then ['\\', '\x27'] else quoteChar c

/-- The form of a byte that is not part of a character. -/
def quoteByte (byte : UInt8) : List Char :=
  ['\\', 'x', (byte.toNat / 16).digitChar.toUpper, (byte.toNat % 16).digitChar.toUpper]

/-- The characters of a name that may be any bytes, quoted one by one. -/
def quoteNameBytes : Bytes → List Char
  | [] => []
  | first :: rest =>
    let front := lead first rest
    (match front.char with
      | some c => quoteNameChar c
      | none => (first :: rest.take front.more).flatMap quoteByte) ++
      quoteNameBytes (rest.drop front.more)
termination_by bytes => bytes.length
decreasing_by simp only [List.length_drop, List.length_cons]; omega

/-- The name of a file, or a text of the operating system that may be any bytes, between double
quotes. -/
def quoteName (name : Bytes) : String :=
  String.ofList ('"' :: quoteNameBytes name ++ ['"'])

end OneHost.Text
