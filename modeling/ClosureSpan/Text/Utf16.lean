/-!
# UTF-16 code units

A character is one code unit below `0x10000` and a pair of surrogates above it.  Reading units back
is total: a surrogate outside a pair stands for the replacement character.

## Main definitions

* `Utf16.units c` — the one or two code units of a character.
* `Utf16.chars us` — the characters that a list of code units spells.
-/

namespace ClosureSpan
namespace Utf16

/-- The character that stands for whatever cannot be read. -/
def replacement : Char := '\uFFFD'

/-- The code units of a character: itself below `0x10000`, a high and a low surrogate above. -/
def units (c : Char) : List Nat :=
  if c.toNat < 0x10000 then [c.toNat]
  else [0xD800 + (c.toNat - 0x10000) / 0x400, 0xDC00 + (c.toNat - 0x10000) % 0x400]

/-- A unit that opens a surrogate pair. -/
def isHigh (u : Nat) : Bool := 0xD800 ≤ u && u < 0xDC00

/-- A unit that closes a surrogate pair. -/
def isLow (u : Nat) : Bool := 0xDC00 ≤ u && u < 0xE000

/-- The character of a surrogate pair. -/
def joined (high low : Nat) : Char :=
  Char.ofNat (0x10000 + (high - 0xD800) * 0x400 + (low - 0xDC00))

/-- The character of a unit on its own.  A surrogate is half a character and is replaced. -/
def lone (u : Nat) : Char := if isHigh u || isLow u then replacement else Char.ofNat u

/-- The characters that a list of code units spells.  A surrogate outside a pair is replaced, and
the unit after it is read afresh. -/
def chars : List Nat → List Char
  | [] => []
  | [u] => [lone u]
  | u :: v :: rest =>
    if isHigh u && isLow v then joined u v :: chars rest else lone u :: chars (v :: rest)

end Utf16
end ClosureSpan
