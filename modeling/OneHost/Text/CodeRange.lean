/-!
# Character properties as lists of code point ranges

A Unicode property is given by the closed ranges of code points that have it, in ascending order.
The tables of this library are written in that form and read by `inRanges`.
-/

namespace OneHost.Text

/-- Whether the code point of `c` lies in one of the closed ranges. -/
def inRanges (ranges : List (Nat × Nat)) (c : Char) : Bool :=
  ranges.any fun range => range.1 ≤ c.toNat && c.toNat ≤ range.2

end OneHost.Text
