import ClosureSpan.ClassFile.ConstantPool

/-!
# Attributes

An attribute is a name, the length of its body, and the body.  Whoever knows the name reads the body
on its own: what a body lacks is the fault of the attribute and not the end of the file, and what a
reader leaves of a body is skipped.

## Main definitions

* `Attribute.readAll` — reads a list of attributes, each body with a reader chosen by name.
* `Attribute.skipAll` — skips a list of attributes without looking at their names.
* `CodeTable`, `CodeTable.readCode` — the debug tables in the code of a method.
-/

namespace ClosureSpan
namespace Attribute

variable {α : Type}

/-- What a body read on its own comes to.  A body that ends too soon is blamed on its attribute. -/
def ofBody (name : String) : Except ParseError (α × Bytes) → Except ParseError α
  | .ok (value, _) => .ok value
  | .error .unexpectedEnd => .error (.shortAttribute name)
  | .error fault => .error fault

/-- Reads one attribute.  The name is looked up before the body has to be there. -/
def read (pool : ConstantPool) (body : String → Reader α) : Reader α := do
  let nameIndex ← Reader.u2
  let length ← Reader.u4
  let name ← pool.text nameIndex
  let contents ← Reader.bytes length
  ofBody name ((body name).run contents)

/-- Reads the number of attributes and then each of them. -/
def readAll (pool : ConstantPool) (body : String → Reader α) : Reader (List α) := do
  let count ← Reader.u2
  Reader.times (read pool body) count

/-- Skips one attribute. -/
def skip : Reader Unit := do
  Reader.skip 2
  let length ← Reader.u4
  Reader.skip length

/-- Reads the number of attributes and skips each of them. -/
def skipAll : Reader Unit := do
  let count ← Reader.u2
  let _ ← Reader.times skip count
  pure ()

end Attribute

/-! ### The tables of a method -/

/-- An attribute in the code of a method. -/
inductive CodeTable where
  /-- A line table. -/
  | lines (rows : List LineRow)
  /-- A local variable table. -/
  | locals (rows : List VariableRow)
  /-- Anything else. -/
  | other
  deriving Repr, DecidableEq

namespace CodeTable

/-- The rows of a line table. -/
def lines? : CodeTable → Option (List LineRow)
  | lines rows => some rows
  | _ => none

/-- The rows of a variable table. -/
def locals? : CodeTable → Option (List VariableRow)
  | locals rows => some rows
  | _ => none

/-- Reads a row of a line table. -/
def readLineRow : Reader LineRow := do
  let location ← Reader.u2
  let line ← Reader.u2
  pure ⟨location, line⟩

/-- Reads a row of a variable table.  Each name is looked up as soon as its index is read. -/
def readVariableRow (pool : ConstantPool) : Reader VariableRow := do
  let start ← Reader.u2
  let length ← Reader.u2
  let name ← pool.text (← Reader.u2)
  let signature ← pool.text (← Reader.u2)
  let slot ← Reader.u2
  pure ⟨name, signature, start, length, slot⟩

/-- Reads the body of an attribute of this name in the code of a method. -/
def readBody (pool : ConstantPool) (name : String) : Reader CodeTable :=
  if name = "LineNumberTable" then do
    let count ← Reader.u2
    let rows ← Reader.times readLineRow count
    pure (lines rows)
  else if name = "LocalVariableTable" then do
    let count ← Reader.u2
    let rows ← Reader.times (readVariableRow pool) count
    pure (locals rows)
  else pure other

/-- Reads the body of a code attribute: after the stack sizes, the code and the exception table, its
own attributes. -/
def readCode (pool : ConstantPool) : Reader (List CodeTable) := do
  Reader.skip 4
  let codeLength ← Reader.u4
  Reader.skip codeLength
  let handlers ← Reader.u2
  Reader.skip (handlers * 8)
  Attribute.readAll pool (readBody pool)

end CodeTable
end ClosureSpan
