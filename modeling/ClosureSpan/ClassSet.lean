import ClosureSpan.ClassFile.Parse
import ClosureSpan.Introspector
import ClosureSpan.Text.Substitute

/-!
# Sets of class files

A class set answers the questions of an introspector from class files.  Classes are numbered in the
order they were inserted, and nothing inserted later changes the answers about them.

## Main definitions

* `ClassSet` with `insert`, `add`, `get?` and `find?`.
* `ClassSet.introspector` — a class set as a source of method metadata.
-/

namespace ClosureSpan

/-- Class files in the order of insertion. -/
structure ClassSet where
  /-- The classes, by number. -/
  classes : Array ClassFile := #[]

namespace ClassSet

/-- A method, by the number of its class and its position there. -/
structure MethodRef where
  /-- The number of the class. -/
  owner : Nat
  /-- The position of the method in the class. -/
  index : Nat
  deriving Repr, DecidableEq

/-- The number of classes. -/
def size (set : ClassSet) : Nat := set.classes.size

/-- Whether there is no class at all. -/
def isEmpty (set : ClassSet) : Bool := set.classes.isEmpty

/-- Inserts a class, and tells its number. -/
def insert (set : ClassSet) (file : ClassFile) : Nat × ClassSet :=
  (set.size, ⟨set.classes.push file⟩)

/-- Parses a class file and inserts it.  Bytes that are no class file leave the set as it is. -/
def add (set : ClassSet) (bs : Bytes) : Except ParseError (Nat × ClassSet) :=
  set.insert <$> ClassFile.parse bs

/-- The class of a number. -/
def get? (set : ClassSet) (owner : Nat) : Option ClassFile := set.classes[owner]?

/-- The first class of a name, which may be internal, with slashes, or binary, with dots. -/
def find? (set : ClassSet) (name : String) : Option Nat :=
  set.classes.findIdx? fun file => file.thisClass = substitute '.' '/' name

/-! ### Answers -/

/-- The class of a number, for a question about it. -/
def classFor (set : ClassSet) (query : Query) (owner : Nat) : Except QueryError ClassFile :=
  match set.get? owner with
  | some file => .ok file
  | none => .error (.invalidHandle query)

/-- A method, for a question about it. -/
def methodFor (set : ClassSet) (query : Query) (method : MethodRef) :
    Except QueryError MethodInfo := do
  match (← set.classFor query method.owner).methods[method.index]? with
  | some info => .ok info
  | none => .error (.invalidHandle query)

/-- Information that a class file may lack. -/
def present {α : Type} (query : Query) : Option α → Except QueryError α
  | some value => .ok value
  | none => .error (.absent query)

/-- The methods of a class. -/
def methods (set : ClassSet) (owner : Nat) : Except QueryError (List MethodRef) := do
  let file ← set.classFor .methods owner
  pure ((List.range file.methods.size).map fun index => ⟨owner, index⟩)

/-- The modifier bits of a method. -/
def modifiers (set : ClassSet) (method : MethodRef) : Except QueryError Int := do
  pure (← set.methodFor .modifiers method).accessFlags

/-- The name of a method. -/
def name (set : ClassSet) (method : MethodRef) : Except QueryError String := do
  pure (← set.methodFor .name method).name

/-- The local variable table of a method. -/
def locals (set : ClassSet) (method : MethodRef) : Except QueryError (List VariableRow) := do
  present .locals (← set.methodFor .locals method).locals

/-- The line table of a method. -/
def lines (set : ClassSet) (method : MethodRef) : Except QueryError (List LineRow) := do
  present .lines (← set.methodFor .lines method).lines

/-- The source file of a class. -/
def sourceFile (set : ClassSet) (owner : Nat) : Except QueryError String := do
  present .sourceFile (← set.classFor .sourceFile owner).sourceFile

/-- An answer that nobody wants back. -/
def answered {α β : Type} (f : α → β) (answer : Except QueryError α) :
    ExceptT QueryError Id (Held Id β) :=
  ExceptT.mk (pure (answer.map fun value => Held.owned (f value)))

/-- A class set as a source of method metadata.  Texts are given in standard UTF-8. -/
def introspector (set : ClassSet) : Introspector Id Nat MethodRef where
  methods owner := answered id (set.methods owner)
  modifiers method := ExceptT.mk (pure (set.modifiers method))
  name method := answered utf8 (set.name method)
  locals method := answered (List.map VariableRow.scope) (set.locals method)
  lines method := answered id (set.lines method)
  sourceFile owner := answered utf8 (set.sourceFile owner)
  report _ := pure ()

end ClassSet
end ClosureSpan
