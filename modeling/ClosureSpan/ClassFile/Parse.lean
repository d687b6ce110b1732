import ClosureSpan.ClassFile.Attribute

/-!
# Reading a class file

The parts of a class file follow each other without gaps.  What stands behind the last attribute of
the class is not looked at.

## Main definitions

* `MethodInfo.read` — reads a method with its debug tables.
* `ClassFile.parse` — the class file that a byte string begins with.
-/

namespace ClosureSpan

/-- The rows of all tables of a kind, in order, if there is any such table. -/
def gathered {ρ : Type} : List (List ρ) → Option (List ρ)
  | [] => none
  | tables => some tables.flatten

/-- The tables in an attribute of a method; only code has some. -/
def MethodInfo.readBody (pool : ConstantPool) (name : String) : Reader (List CodeTable) :=
  if name = "Code" then CodeTable.readCode pool else pure []

/-- Reads a method.  Tables of one kind count as one table, wherever they stand. -/
def MethodInfo.read (pool : ConstantPool) : Reader MethodInfo := do
  let accessFlags ← Reader.u2
  let name ← pool.text (← Reader.u2)
  let descriptor ← pool.text (← Reader.u2)
  let tables ← Attribute.readAll pool (readBody pool)
  pure {
    accessFlags, name, descriptor
    lines := gathered (tables.flatten.filterMap CodeTable.lines?)
    locals := gathered (tables.flatten.filterMap CodeTable.locals?) }

namespace ClassFile

/-- The number that every class file begins with. -/
def magic : Nat := 0xCAFEBABE

/-- Skips a field: its flags, name and type, and its attributes. -/
def skipField : Reader Unit := do
  Reader.skip 6
  Attribute.skipAll

/-- The source file that an attribute of the class names. -/
def readBody (pool : ConstantPool) (name : String) : Reader (Option String) :=
  if name = "SourceFile" then do
    let file ← pool.text (← Reader.u2)
    pure (some file)
  else pure none

/-- Reads a class file.  If several attributes name a source file, the last one counts. -/
def read : Reader ClassFile := do
  let number ← Reader.u4
  if number ≠ magic then throw (.badMagic number)
  let minorVersion ← Reader.u2
  let majorVersion ← Reader.u2
  let pool ← ConstantPool.read
  let accessFlags ← Reader.u2
  let thisClass ← pool.className (← Reader.u2)
  let _superClass ← Reader.u2
  let interfaces ← Reader.u2
  Reader.skip (interfaces * 2)
  let fields ← Reader.u2
  let _ ← Reader.times skipField fields
  let methodCount ← Reader.u2
  let methods ← Reader.times (MethodInfo.read pool) methodCount
  let files ← Attribute.readAll pool (readBody pool)
  pure {
    minorVersion, majorVersion, accessFlags, thisClass
    methods := methods.toArray
    sourceFile := (files.filterMap id).getLast? }

/-- The class file that a byte string begins with. -/
def parse (bs : Bytes) : Except ParseError ClassFile := Prod.fst <$> read.run bs

end ClassFile
end ClosureSpan
