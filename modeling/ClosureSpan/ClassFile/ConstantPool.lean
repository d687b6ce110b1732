import ClosureSpan.ClassFile.Reader

/-!
# The constant pool

A class file holds its texts in a table, and all else refers to them by index.  Index 0 is never
used, and a constant of eight bytes takes two indices, of which the second is unusable.

## Main definitions

* `Constant` — a constant, as far as it matters which it is.
* `ConstantPool.text`, `ConstantPool.className` — the text and the class name at an index.
* `ConstantPool.read` — reads the table.
-/

namespace ClosureSpan

/-- A constant. -/
inductive Constant where
  /-- A text. -/
  | text (value : String)
  /-- A class, named by the text at this index. -/
  | classRef (nameIndex : Nat)
  /-- A number of eight bytes, which takes two indices. -/
  | wide
  /-- Any other constant. -/
  | other
  deriving Repr, DecidableEq

/-- The indices that a constant takes, with what is found there. -/
def Constant.slots : Constant → List (Option Constant)
  | wide => [some wide, none]
  | constant => [some constant]

/-- The constants of a class file, by index; an unusable index holds none. -/
structure ConstantPool where
  /-- What each index holds, from index 0 on. -/
  slots : Array (Option Constant)
  deriving Repr, DecidableEq

namespace ConstantPool

/-- The constant at an index. -/
def get (pool : ConstantPool) (index : Nat) : Except ParseError Constant :=
  match pool.slots[index]? with
  | some (some constant) => .ok constant
  | _ => .error (.badIndex index)

/-- The text at an index. -/
def text (pool : ConstantPool) (index : Nat) : Except ParseError String := do
  match ← pool.get index with
  | .text value => .ok value
  | _ => .error (.badIndex index)

/-- The name of the class at an index.  An error blames the index that does not denote what it
should. -/
def className (pool : ConstantPool) (index : Nat) : Except ParseError String := do
  match ← pool.get index with
  | .classRef nameIndex => pool.text nameIndex
  | _ => .error (.badIndex index)

end ConstantPool

/-! ### Reading -/

/-- Reads a constant.  Its tag decides how many bytes follow. -/
def Constant.read : Reader Constant := do
  let tag ← Reader.u1
  match tag with
  | 1 =>
    let length ← Reader.u2
    let contents ← Reader.bytes length
    pure (.text (ModifiedUtf8.decode contents))
  | 7 =>
    let nameIndex ← Reader.u2
    pure (.classRef nameIndex)
  | 5 | 6 =>
    Reader.skip 8
    pure .wide
  | 3 | 4 | 9 | 10 | 11 | 12 | 17 | 18 =>
    Reader.skip 4
    pure .other
  | 15 =>
    Reader.skip 3
    pure .other
  | 8 | 16 | 19 | 20 =>
    Reader.skip 2
    pure .other
  | _ => throw (.badTag tag)

namespace ConstantPool

/-- Reads constants until `n` indices are taken.  A wide constant may take one index more. -/
def readSlots : Nat → Reader (List (Option Constant))
  | 0 => pure []
  | 1 => do
    let constant ← Constant.read
    pure constant.slots
  | n + 2 => do
    let constant ← Constant.read
    let others ← if constant = .wide then readSlots n else readSlots (n + 1)
    pure (constant.slots ++ others)

/-- Reads the number of indices, which counts index 0, and then the constants. -/
def read : Reader ConstantPool := do
  let count ← Reader.u2
  let slots ← readSlots (count - 1)
  pure ⟨(none :: slots).toArray⟩

end ConstantPool
end ClosureSpan
