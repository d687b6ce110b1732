/-!
# Substituting a character

## Main definitions

* `substitute old new s` — the text with each `old` turned into `new`.
-/

namespace ClosureSpan

/-- The text with each `old` character turned into `new`. -/
def substitute (old new : Char) (s : String) : String :=
  String.ofList (s.toList.map fun c => if c = old then new else c)

end ClosureSpan
