import ClosureSpan.Diagnostics.Event
import ClosureSpan.Held
import ClosureSpan.Query
import ClosureSpan.Span

/-!
# Scanning a class for its entry method

Class files and live machines answer the same six questions.  An introspector is anything that
does.  What it hands out may have to be given back, so tables and texts arrive as held values.

The entry method of a class is its first method that is no bridge, has the entry name, and has a
line span outside inlined code.

## Main definitions

* `Introspector m κ μ` — the six questions, for class handles `κ` and method handles `μ`.
* `Introspector.select` — the entry method of a class, with its span.
-/

namespace ClosureSpan

variable {m : Type → Type} [Monad m]

/-! ### Introspectors -/

/-- Answers to the six questions, and a listener for what a scan has to report. -/
structure Introspector (m : Type → Type) (κ μ : Type) where
  /-- The methods that a class declares, in order of declaration. -/
  methods : κ → ExceptT QueryError m (Held m (List μ))
  /-- The modifier bits of a method. -/
  modifiers : μ → ExceptT QueryError m Int
  /-- The name of a method. -/
  name : μ → ExceptT QueryError m (Held m Bytes)
  /-- The scopes of the local variables of a method. -/
  locals : μ → ExceptT QueryError m (Held m (List Scope))
  /-- The line table of a method. -/
  lines : μ → ExceptT QueryError m (Held m (List LineRow))
  /-- The source file of a class. -/
  sourceFile : κ → ExceptT QueryError m (Held m Bytes)
  /-- Takes an event. -/
  report : Event → m Unit

/-! ### Selecting a method -/

/-- Whether the modifier bits have the bridge bit `0x40`: the compiler made the method, and it only
forwards to another. -/
def isBridge (modifiers : Int) : Bool := modifiers / 0x40 % 2 = 1

/-- A method and what its tables say. -/
structure Selection (μ : Type) where
  /-- The method. -/
  method : μ
  /-- The lines of its own body. -/
  span : LineSpan
  /-- The code in it that was inlined. -/
  ranges : List InlineRange
  deriving Repr, DecidableEq

/-- The text of a span that may be missing. -/
def LineSpan.optionText : Option LineSpan → String
  | none => "None"
  | some span =>
    "Some(LineSpan \x7b start: " ++ toString span.first ++ ", end: " ++ toString span.last
      ++ " \x7d)"

/-- What a scan reports on a method whose tables it has read. -/
def candidateEvent (entry : String) (rows ranges : Nat) (span : Option LineSpan) : Event where
  level := .trace
  message := "analyzed candidate `" ++ entry ++ "`"
  fields := [("lines", .number rows), ("inline_ranges", .number ranges),
    ("span", .plain (LineSpan.optionText span))]

namespace Introspector

variable {κ μ : Type} (source : Introspector m κ μ)

/-- Whether a method has this name; the name is given back as soon as it has been compared. -/
def hasName (entry : String) (method : μ) : ExceptT QueryError m Bool :=
  Held.use (source.name method) fun name => pure (name = utf8 entry)

/-- Reads the tables of a method and reduces them to its span. -/
def measure (entry : String) (method : μ) : ExceptT QueryError m (Option (Selection μ)) :=
  Held.use (source.locals method) fun scopes =>
    Held.use (source.lines method) fun rows => do
      let ranges := inlineRanges scopes
      let span := analyze rows ranges
      source.report (candidateEvent entry rows.length ranges.length span)
      pure (span.map fun span => ⟨method, span, ranges⟩)

/-- The selection that a method makes, if it is no bridge, has the entry name and has a span. -/
def candidate (entry : String) (method : μ) : ExceptT QueryError m (Option (Selection μ)) := do
  if isBridge (← source.modifiers method) then
    pure none
  else if ← source.hasName entry method then
    source.measure entry method
  else
    pure none

/-- The first selection that one of the methods makes.  A failed question ends the scan. -/
def scan (entry : String) : List μ → ExceptT QueryError m (Option (Selection μ))
  | [] => pure none
  | method :: rest => do
    match ← source.candidate entry method with
    | some selection => pure (some selection)
    | none => scan entry rest

@[simp] theorem scan_nil (entry : String) : source.scan entry [] = pure none := rfl

theorem scan_cons (entry : String) (method : μ) (rest : List μ) :
    source.scan entry (method :: rest) = source.candidate entry method >>= fun
      | some selection => pure (some selection)
      | none => source.scan entry rest := rfl

/-- The entry method of a class. -/
def select (entry : String) (owner : κ) : ExceptT QueryError m (Option (Selection μ)) :=
  Held.use (source.methods owner) (source.scan entry)

end Introspector
end ClosureSpan
