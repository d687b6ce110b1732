import ClosureSpan.Diagnostics.Event
import ClosureSpan.Text.Alphanumeric
import ClosureSpan.Text.Blank

/-!
# Filters on diagnostics

The agent bounds its events by a text, which comes from an option, from the environment, or else
is the default.  What the text means is not for the agent to say: the language of such texts belongs
to whoever writes the events down, and is a parameter here.

Plain filters are one such language, which has no word for spans or fields.  A plain filter is a
list of directives between commas.  A directive is a level, which bounds every event, or
`target=level`, which bounds the events filed under a name that begins with the target.  Of the
directives for a name the one with the longest target counts, and of equal targets the last.  A
name for which no directive counts has no events at all.

## Main definitions

* `FilterLanguage` — what the texts of a language mean.
* `FilterLanguage.choose` — the bound in force, from an option, the environment or the default.
* `Directive.ofText?` — the directive that a text states.
* `Filter.ofText?` — the plain filter that a text states.
* `Filter.bound` — the least important level that a plain filter admits for a name.
* `Filter.plain` — the language of plain filters.
-/

namespace ClosureSpan

/-! ### Filters in force -/

/-- What the texts of filters mean for the events of the agent: the least important level admitted,
if any is.  A malformed text means nothing. -/
abbrev FilterLanguage := String → Option (Option Level)

namespace FilterLanguage

/-- The bound without an option and without an environment: warnings and errors. -/
def fallback : Option Level := some .warn

/-- The bound in force: that of the option, else that of the environment, else the default.  A
malformed text counts as none. -/
def choose (language : FilterLanguage) (option environment : Option String) : Option Level :=
  ((option.bind language).or (environment.bind language)).getD fallback

end FilterLanguage

/-! ### Plain filters -/

/-- The number that a word of digits stands for.  A plus sign may stand in front of the digits. -/
def Level.number? (word : List Char) : Option Nat :=
  let digits := if word.head? = some '+' then word.tail else word
  if digits ≠ [] && digits.all Char.isDigit then
    some (digits.foldl (fun n digit => 10 * n + (digit.toNat - '0'.toNat)) 0)
  else none

/-- The bound with a number: the position of the least important level admitted, or 0 for none. -/
def Level.boundOfNumber? : Nat → Option (Option Level)
  | 0 => some none
  | 1 => some (some .error)
  | 2 => some (some .warn)
  | 3 => some (some .info)
  | 4 => some (some .debug)
  | 5 => some (some .trace)
  | _ => none

/-- The bound that a word states, by its name in ASCII letters of any case or by its number; `off`
admits nothing. -/
def Level.boundOfWord? (word : List Char) : Option (Option Level) :=
  match String.ofList (word.map Char.toLower) with
  | "off" => some none
  | "error" => some (some .error)
  | "warn" => some (some .warn)
  | "info" => some (some .info)
  | "debug" => some (some .debug)
  | "trace" => some (some .trace)
  | _ => (Level.number? word).bind Level.boundOfNumber?

/-- A bound on the events filed under some names. -/
structure Directive where
  /-- What the names begin with. -/
  target : List Char
  /-- The least important level admitted, if any is. -/
  bound : Option Level
  deriving Repr, DecidableEq

/-- Whether a text begins as a target may: with a letter, a number, a hyphen, a colon or an
underscore. -/
def Directive.beginsTarget : List Char → Bool
  | [] => false
  | c :: _ => c == '-' || c == ':' || c == '_' || isAlphanumeric c

/-- The directive that a text states: a level for every name, a target that admits everything, or a
target with its level.  No level behind the equals sign admits everything too.  Blanks may stand in
front of a lone target only, where they belong to it. -/
def Directive.ofText? (text : List Char) : Option Directive :=
  match text.dropWhile (· ≠ '=') with
  | [] =>
    if beginsTarget (trimStart text) then
      match Level.boundOfWord? text with
      | some bound => some ⟨[], bound⟩
      | none => some ⟨text, some .trace⟩
    else none
  | _ :: level =>
    if beginsTarget text then
      (if level = [] then some (some Level.trace) else Level.boundOfWord? level).map
        fun bound => ⟨text.takeWhile (· ≠ '='), bound⟩
    else none

/-- A list of directives. -/
abbrev Filter := List Directive

namespace Filter

/-- The plain filter that a text states.  Nothing between two commas states nothing, and one
malformed directive spoils the whole text. -/
def ofText? (text : String) : Option Filter :=
  ((text.toList.splitOn ',').filter (· ≠ [])).mapM Directive.ofText?

/-- The directive that counts for a name, given the one that counted so far. -/
def prefer (name : List Char) (best : Option Directive) (next : Directive) : Option Directive :=
  if next.target.isPrefixOf name then
    match best with
    | some held => if held.target.length ≤ next.target.length then some next else best
    | none => some next
  else best

/-- The least important level that is admitted for a name, if any is. -/
def bound (filter : Filter) (name : String) : Option Level :=
  (filter.foldl (prefer name.toList) none).bind Directive.bound

/-- The language of plain filters. -/
def plain : FilterLanguage := fun text =>
  (ofText? text).map fun filter => filter.bound Event.target

end Filter
end ClosureSpan
