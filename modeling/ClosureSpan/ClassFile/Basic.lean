import ClosureSpan.Span

/-!
# Class files

What is kept of a class file: its versions and flags, its name and source file, and of each method
the flags, the name and the debug tables.

## Main definitions

* `VariableRow`, `MethodInfo`, `ClassFile` — the kept parts.
* `ParseError` — why bytes are not a class file.
-/

namespace ClosureSpan

/-- A row of the local variable table of a method. -/
structure VariableRow where
  /-- The name of the variable. -/
  name : String
  /-- The descriptor of its type. -/
  signature : String
  /-- The first code location where it is visible. -/
  start : Int
  /-- The number of code locations where it is visible. -/
  length : Int
  /-- The local variable slot that holds it. -/
  slot : Int
  deriving Repr, DecidableEq

/-- The name and the code of a row, the name in bytes. -/
def VariableRow.scope (row : VariableRow) : Scope := ⟨utf8 row.name, row.start, row.length⟩

/-- A method of a class file. -/
structure MethodInfo where
  /-- The modifier bits. -/
  accessFlags : Nat
  /-- The name. -/
  name : String
  /-- The descriptor of its type. -/
  descriptor : String
  /-- The rows of all of its line tables, if it has any such table. -/
  lines : Option (List LineRow)
  /-- The rows of all of its variable tables, if it has any such table. -/
  locals : Option (List VariableRow)
  deriving Repr, DecidableEq

/-- A class file. -/
structure ClassFile where
  /-- The minor version of the format. -/
  minorVersion : Nat
  /-- The major version of the format. -/
  majorVersion : Nat
  /-- The modifier bits of the class. -/
  accessFlags : Nat
  /-- The internal name of the class, with slashes. -/
  thisClass : String
  /-- The methods, in order of declaration. -/
  methods : Array MethodInfo
  /-- The source file, if the class names one. -/
  sourceFile : Option String
  deriving Repr, DecidableEq

/-- Why bytes are not a class file. -/
inductive ParseError where
  /-- The bytes end too soon. -/
  | unexpectedEnd
  /-- The first four bytes are this number instead of the magic one. -/
  | badMagic (number : Nat)
  /-- The constant at this index is missing or of the wrong kind. -/
  | badIndex (index : Nat)
  /-- No constant has this tag. -/
  | badTag (tag : Nat)
  /-- The body of an attribute of this name is too short for what it announces. -/
  | shortAttribute (name : String)
  deriving Repr, DecidableEq

/-- The text of the error. -/
def ParseError.message : ParseError → String
  | unexpectedEnd => "unexpected end of file"
  | badMagic number => "invalid magic: 0x" ++ String.ofList (Nat.toDigits 16 number)
  | badIndex index => "invalid constant pool index: " ++ toString index
  | badTag tag => "invalid constant pool tag: " ++ toString tag
  | shortAttribute name => "invalid attribute: " ++ name

end ClosureSpan
