import ClosureSpan.Text.ModifiedUtf8

/-!
# The line span of a method body

The compiler copies the body of an inline function into its caller and marks the copied code with a
synthetic local variable whose name begins with `$i$f$` and whose scope is exactly that code.  Lines
inside such a scope belong to the inlined function.  The span of a method is the smallest and the
largest line among the rows that are left.

Locations are words of 64 bits, and so is the end of a scope: a sum that is out of their bounds
wraps around.

## Main definitions

* `LineRow`, `Scope` — the parts of a line table and of a variable table that matter here.
* `inlineRanges scopes` — the code intervals of the marker variables.
* `analyze rows ranges` — the span of the rows outside those intervals, if any row is left.
-/

namespace ClosureSpan

/-! ### Rows -/

/-- A row of a line table: the code from `location` on was compiled from `line`. -/
structure LineRow where
  /-- The first code location of the row. -/
  location : Int
  /-- The source line; zero and below mean none. -/
  line : Int
  deriving Repr, DecidableEq

/-- The name of a local variable and the code where it is visible. -/
structure Scope where
  /-- The bytes of the variable's name. -/
  name : Bytes
  /-- The first code location where the variable is visible. -/
  start : Int
  /-- The number of code locations where it is visible. -/
  length : Int
  deriving Repr, DecidableEq

/-! ### Inlined code -/

/-- A half-open interval of code locations. -/
structure InlineRange where
  /-- The first location inside. -/
  start : Int
  /-- The first location behind. -/
  stop : Int
  deriving Repr, DecidableEq

/-- Whether a location lies inside the interval. -/
def InlineRange.contains (range : InlineRange) (location : Int) : Bool :=
  range.start ≤ location && location < range.stop

/-- The bytes `$i$f$` that begin the name of a marker variable. -/
def inlineMarker : Bytes := [0x24, 0x69, 0x24, 0x66, 0x24]

/-- Whether a variable of this name marks inlined code. -/
def isInlineMarker (name : Bytes) : Bool := inlineMarker.isPrefixOf name

/-- The code where a variable is visible, as an interval.  Its end is the sum of two words. -/
def Scope.range (scope : Scope) : InlineRange :=
  ⟨scope.start, (Int64.ofInt scope.start + Int64.ofInt scope.length).toInt⟩

/-- The code intervals of the marker variables, in table order. -/
def inlineRanges (scopes : List Scope) : List InlineRange :=
  (scopes.filter fun scope => isInlineMarker scope.name).map Scope.range

/-! ### Spans -/

/-- An inclusive interval of source lines. -/
structure LineSpan where
  /-- The smallest line. -/
  first : Int
  /-- The largest line. -/
  last : Int
  deriving Repr, DecidableEq

/-- The span so far and one more row.  A first line of zero means that no row has counted so far;
no row that counts has this line. -/
def LineSpan.visit (ranges : List InlineRange) (span : LineSpan) (row : LineRow) : LineSpan :=
  if row.line ≤ 0 then span
  else if ranges.any fun range => range.contains row.location then span
  else if span.first = 0 then ⟨row.line, row.line⟩
  else ⟨min span.first row.line, max span.last row.line⟩

/-- The span of the rows that have a line and lie outside all of the intervals. -/
def analyze (rows : List LineRow) (ranges : List InlineRange) : Option LineSpan :=
  let span := rows.foldl (LineSpan.visit ranges) ⟨0, 0⟩
  if 0 < span.first then some span else none

end ClosureSpan
