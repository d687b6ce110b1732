import ClosureSpan.Text.CodePoint
import ClosureSpan.Text.Printable

/-!
# Quoted texts

A text between double quotes on a single line.  Quotes and backslashes are escaped, and so is every
character that would not be seen.

## Main definitions

* `Quoted.encode s` — the quoted text.
-/

namespace ClosureSpan
namespace Quoted

/-- How a character is written between quotes. -/
def encodeChar (c : Char) : List Char :=
  match c with
  | '\x00' => ['\\', '0']
  | '\t' => ['\\', 't']
  | '\n' => ['\\', 'n']
  | '\r' => ['\\', 'r']
  | '"' => ['\\', '"']
  | '\\' => ['\\', '\\']
  | c => if isPrintable c then [c] else codePointEscape c

/-- The text between double quotes. -/
def encode (s : String) : String :=
  String.ofList ('"' :: s.toList.flatMap encodeChar ++ ['"'])

end Quoted
end ClosureSpan
