/-!
# Code points

A class of characters is a list of intervals of code points.  A character that should not stand in
a text itself is named there by its code point, in braces.

## Main definitions

* `Intervals.has c` — whether the code point of a character lies in one of the intervals.
* `codePointEscape c` — the name of a character, as `\u{7f}`.
-/

namespace ClosureSpan

/-- Intervals of code points, each with both ends. -/
abbrev Intervals := List (Nat × Nat)

/-- Whether the code point of a character lies in one of the intervals. -/
def Intervals.has (intervals : Intervals) (c : Char) : Bool :=
  intervals.any fun interval => interval.1 ≤ c.toNat && c.toNat ≤ interval.2

/-- The name of a character by its code point, in the fewest hexadecimal digits, as `\u{7f}`. -/
def codePointEscape (c : Char) : List Char :=
  "\\u\x7b".toList ++ Nat.toDigits 16 c.toNat ++ ['\x7d']

end ClosureSpan
