/-!
# Blank characters and trimming

A character is blank if Unicode gives it the property `White_Space`.

## Main definitions

* `isBlank c` — the 25 blank characters.
* `trim cs` — the text without the blanks at its two ends.
-/

namespace ClosureSpan

/-- The characters with the Unicode property `White_Space`. -/
def isBlank (c : Char) : Bool :=
  let n := c.toNat
  (0x09 ≤ n && n ≤ 0x0D) || n == 0x20 || n == 0x85 || n == 0xA0 || n == 0x1680
    || (0x2000 ≤ n && n ≤ 0x200A) || n == 0x2028 || n == 0x2029 || n == 0x202F || n == 0x205F
    || n == 0x3000

/-- The text without the blanks in front. -/
def trimStart (cs : List Char) : List Char := cs.dropWhile isBlank

/-- The text without the blanks at its two ends. -/
def trim (cs : List Char) : List Char := (trimStart (trimStart cs).reverse).reverse

end ClosureSpan
