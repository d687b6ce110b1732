import ClosureSpan.Text.CodePoint

/-!
# Control codes of a terminal

A terminal obeys some characters instead of showing them: it rings, goes back, clears the page or
reads what follows as an order.  In a text that may hold what a stranger wrote they are written
out, so that whoever reads it sees them.  Tabs and ends of lines are no such orders and stay.

## Main definitions

* `ControlCode.reveal s` — the text with the control codes written out.
-/

namespace ClosureSpan
namespace ControlCode

/-- How a character is written.  Bell, backspace, form feed, escape and delete are written by their
byte; the controls from U+0080 on, each of which stands for an escape and a letter, by their code
point. -/
def revealChar (c : Char) : List Char :=
  match c with
  | '\x07' => "\\x07".toList
  | '\x08' => "\\x08".toList
  | '\x0c' => "\\x0c".toList
  | '\x1b' => "\\x1b".toList
  | '\x7f' => "\\x7f".toList
  | c => if 0x80 ≤ c.toNat && c.toNat ≤ 0x9F then codePointEscape c else [c]

/-- The text with the control codes written out. -/
def reveal (s : String) : String := String.ofList (s.toList.flatMap revealChar)

end ControlCode
end ClosureSpan
