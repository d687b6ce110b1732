import ClosureSpan.Text.Blank
import ClosureSpan.Text.Substitute

/-!
# Agent options

The options of the agent are one text: items of the form `key=value` between commas, with blanks
around items, keys and values ignored and empty items skipped.  The first malformed item is the
error of the whole text; of several items with one key the last counts.

## Main definitions

* `Options` — what can be set, with the defaults.
* `Setting.ofItem` — what a single item sets, or why it is malformed.
* `Options.parse` — the options that a text sets.
-/

namespace ClosureSpan

/-- Why an item is malformed. -/
inductive OptionsError where
  /-- The item has no equals sign. -/
  | missingValue (item : String)
  /-- Nothing stands behind the equals sign. -/
  | emptyValue (key : String)
  /-- There is no such option. -/
  | unknownKey (key : String)
  deriving Repr, DecidableEq

/-- The text of the error. -/
def OptionsError.message : OptionsError → String
  | missingValue item => "option `" ++ item ++ "` is not of the form key=value"
  | emptyValue key => "option `" ++ key ++ "` has an empty value"
  | unknownKey key => "unknown option `" ++ key ++ "`"

/-- The class of the result objects, unless an option names another. -/
def defaultResultClass : String := "androidx/compose/ui/inspection/inspector/LambdaLocation"

/-- The entry method of a function object, unless an option names another. -/
def defaultEntryMethod : String := "invoke"

/-- The options of the agent. -/
structure Options where
  /-- The directive of the diagnostics filter. -/
  log : Option String := none
  /-- The internal name of the class of the result objects. -/
  resultClass : String := defaultResultClass
  /-- The name of the method whose lines are looked up. -/
  entryMethod : String := defaultEntryMethod
  deriving Repr, DecidableEq

/-! ### Items -/

/-- The items of a text: what stands between commas, trimmed, unless it is empty. -/
def Options.items (text : List Char) : List (List Char) :=
  ((text.splitOn ',').map trim).filter (· ≠ [])

/-- What stands before and behind the first equals sign. -/
def keyAndValue (item : List Char) : Option (List Char × List Char) :=
  match item.dropWhile (· ≠ '=') with
  | [] => none
  | _ :: value => some (item.takeWhile (· ≠ '='), value)

/-- What one item sets. -/
inductive Setting where
  /-- The directive of the diagnostics filter. -/
  | log (directive : String)
  /-- The class of the result objects. -/
  | resultClass (name : String)
  /-- The entry method. -/
  | entryMethod (name : String)
  deriving Repr, DecidableEq

/-- What an item sets.  A comma cannot stand inside an item, so a directive separates its parts by
semicolons; a class may be given by its binary name, with dots. -/
def Setting.ofItem (item : List Char) : Except OptionsError Setting :=
  match keyAndValue item with
  | none => .error (.missingValue (String.ofList item))
  | some (key, value) =>
    let key := String.ofList (trim key)
    let value := String.ofList (trim value)
    if value = "" then .error (.emptyValue key)
    else if key = "log" then .ok (.log (substitute ';' ',' value))
    else if key = "result_class" then .ok (.resultClass (substitute '.' '/' value))
    else if key = "entry_method" then .ok (.entryMethod value)
    else .error (.unknownKey key)

/-! ### Texts -/

namespace Options

/-- The options with one of them set. -/
def apply (options : Options) : Setting → Options
  | .log directive => { options with log := some directive }
  | .resultClass name => { options with resultClass := name }
  | .entryMethod name => { options with entryMethod := name }

/-- The options that a text sets over the given ones. -/
def parseOver (options : Options) (text : String) : Except OptionsError Options :=
  (fun settings => settings.foldl apply options) <$> (items text.toList).mapM Setting.ofItem

/-- The options that a text sets, the defaults elsewhere. -/
def parse (text : String) : Except OptionsError Options := parseOver {} text

end Options
end ClosureSpan
