/-!
# White space of all scripts

The characters with the Unicode property White_Space, and the texts without those characters at
either end.
-/

namespace OneHost.Text

/-- The Unicode property White_Space. -/
def isBlank (c : Char) : Bool :=
  (0x9 ≤ c.toNat && c.toNat ≤ 0xd) || c = ' ' || c = '\u0085' || c = '\u00a0' ||
    c = '\u1680' || (0x2000 ≤ c.toNat && c.toNat ≤ 0x200a) || c = '\u2028' || c = '\u2029' ||
    c = '\u202f' || c = '\u205f' || c = '\u3000'

/-- The text without the white space at its ends. -/
def trimmed (text : List Char) : List Char :=
  ((text.dropWhile isBlank).reverse.dropWhile isBlank).reverse

/-- The text without the white space at its ends. -/
def trim (text : String) : String :=
  String.ofList (trimmed text.toList)

end OneHost.Text
