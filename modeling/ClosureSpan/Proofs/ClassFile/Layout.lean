import ClosureSpan.ClassFile.Parse
import Mathlib.Data.List.Forall2

/-!
# The layout of a class file

A class file is described here from the side of whoever writes one: the parts as they stand in the
file, the bytes of each part, and what a part stands for once its indices are looked up.  Nothing in
this module reads bytes.

A part that a reader leaves out, such as the code of a method, is still described by its bytes, so
that the bytes of a part are exactly what it takes in the file.  An attribute is described by its
name index and its body; what the body holds depends on the name, and a body may hold more than its
name asks for.

## Main definitions

* `RawConstant`, `RawPool`, `RawAttribute`, `RawCode`, `RawMethod`, `RawField`, `RawClass` — the
  parts, each with its `bytes`.
* `ConstantPool.HoldsText`, `ConstantPool.HoldsClass` — what an index denotes.
* `TableBody`, `MethodBody`, `ClassBody` — what the body of an attribute of some name stands for.
* `RawClass.Denotes raw file` — the class file that the parts stand for.
-/

namespace ClosureSpan

/-! ### Numbers and blocks -/

/-- A number in two bytes, the most significant first. -/
def twoBytes (n : UInt16) : Bytes :=
  [UInt8.ofNat (n.toNat / 0x100), UInt8.ofNat (n.toNat % 0x100)]

/-- A number in four bytes, the most significant first. -/
def fourBytes (n : UInt32) : Bytes :=
  [UInt8.ofNat (n.toNat / 0x1000000), UInt8.ofNat (n.toNat / 0x10000 % 0x100),
    UInt8.ofNat (n.toNat / 0x100 % 0x100), UInt8.ofNat (n.toNat % 0x100)]

/-- Items that stand behind their number, which takes two bytes. -/
structure Counted (α : Type) where
  /-- The items. -/
  items : List α
  /-- Two bytes hold their number. -/
  fits : items.length < 0x10000

/-- The number of the items and then each of them. -/
def Counted.bytes {α : Type} (write : α → Bytes) (counted : Counted α) : Bytes :=
  twoBytes (UInt16.ofNat counted.items.length) ++ counted.items.flatMap write

/-- Entries of a fixed size behind their number, which takes two bytes; nobody looks at them. -/
structure Skipped (size : Nat) where
  /-- The number of entries. -/
  count : UInt16
  /-- The entries. -/
  contents : Bytes
  /-- There are as many as announced. -/
  length_eq : contents.length = count.toNat * size

/-- The number of the entries and then the entries. -/
def Skipped.bytes {size : Nat} (skipped : Skipped size) : Bytes :=
  twoBytes skipped.count ++ skipped.contents

/-- Bytes that stand behind their number, which takes four bytes. -/
structure Block where
  /-- The bytes. -/
  contents : Bytes
  /-- Four bytes hold their number. -/
  fits : contents.length < 0x100000000

/-- The number of the bytes and then the bytes. -/
def Block.bytes (block : Block) : Bytes :=
  fourBytes (UInt32.ofNat block.contents.length) ++ block.contents

/-! ### Constants -/

/-- How many bytes follow the tag of a constant that nobody looks at; none for an unknown tag. -/
def skippedSize? (tag : Nat) : Option Nat :=
  if tag ∈ [5, 6] then some 8
  else if tag ∈ [3, 4, 9, 10, 11, 12, 17, 18] then some 4
  else if tag = 15 then some 3
  else if tag ∈ [8, 16, 19, 20] then some 2
  else none

/-- A constant as it stands in the file. -/
inductive RawConstant where
  /-- A text in modified UTF-8. -/
  | text (contents : Bytes) (fits : contents.length < 0x10000)
  /-- A class, named by the text at this index. -/
  | classRef (nameIndex : UInt16)
  /-- A constant that nobody looks at, by its tag and the bytes behind it. -/
  | skipped (tag : UInt8) (payload : Bytes) (known : skippedSize? tag.toNat = some payload.length)

namespace RawConstant

/-- The tag and what follows it. -/
def bytes : RawConstant → Bytes
  | text contents _ => 1 :: (twoBytes (UInt16.ofNat contents.length) ++ contents)
  | classRef nameIndex => 7 :: twoBytes nameIndex
  | skipped tag payload _ => tag :: payload

/-- The constant.  Numbers of eight bytes have the tags 5 and 6. -/
def constant : RawConstant → Constant
  | text contents _ => .text (ModifiedUtf8.decode contents)
  | classRef nameIndex => .classRef nameIndex.toNat
  | skipped tag _ _ => if tag.toNat ∈ [5, 6] then .wide else .other

/-- The indices that the constant takes, with what is found there. -/
def slots (raw : RawConstant) : List (Option Constant) := raw.constant.slots

end RawConstant

/-- Whether constants fill `n` indices, and would not do so without the last one.  The last one may
fill an index more. -/
def FillsExactly (n : Nat) (constants : List RawConstant) : Prop :=
  n ≤ (constants.flatMap RawConstant.slots).length ∧
    ∀ front last, constants = front ++ [last] → (front.flatMap RawConstant.slots).length < n

/-- A constant pool as it stands in the file. -/
structure RawPool where
  /-- The announced number of indices, among them index 0. -/
  count : UInt16
  /-- The constants. -/
  constants : List RawConstant
  /-- They fill the announced indices. -/
  fills : FillsExactly (count.toNat - 1) constants

namespace RawPool

/-- The announced number and then the constants. -/
def bytes (raw : RawPool) : Bytes := twoBytes raw.count ++ raw.constants.flatMap RawConstant.bytes

/-- What each index holds; index 0 holds nothing. -/
def pool (raw : RawPool) : ConstantPool :=
  ⟨(none :: raw.constants.flatMap RawConstant.slots).toArray⟩

end RawPool

namespace ConstantPool

/-- The index denotes this text. -/
def HoldsText (pool : ConstantPool) (index : Nat) (text : String) : Prop :=
  pool.slots[index]? = some (some (.text text))

/-- The index denotes a class, and the class is named by this text. -/
def HoldsClass (pool : ConstantPool) (index : Nat) (name : String) : Prop :=
  ∃ nameIndex, pool.slots[index]? = some (some (.classRef nameIndex)) ∧
    pool.HoldsText nameIndex name

end ConstantPool

/-! ### Attributes -/

/-- An attribute as it stands in the file. -/
structure RawAttribute where
  /-- The index of its name. -/
  nameIndex : UInt16
  /-- Its body. -/
  body : Block

namespace RawAttribute

/-- The name index, the length of the body and the body. -/
def bytes (raw : RawAttribute) : Bytes := twoBytes raw.nameIndex ++ raw.body.bytes

/-- The name index denotes a name, and under that name the body stands for `value`. -/
def Denotes {α : Type} (pool : ConstantPool) (Body : String → Bytes → α → Prop)
    (raw : RawAttribute) (value : α) : Prop :=
  ∃ name, pool.HoldsText raw.nameIndex.toNat name ∧ Body name raw.body.contents value

end RawAttribute

/-! ### The tables of a method -/

/-- A row of a line table as it stands in the file. -/
structure RawLineRow where
  /-- The first code location. -/
  location : UInt16
  /-- The source line. -/
  line : UInt16

/-- The two numbers of the row. -/
def RawLineRow.bytes (raw : RawLineRow) : Bytes := twoBytes raw.location ++ twoBytes raw.line

/-- The row. -/
def RawLineRow.row (raw : RawLineRow) : LineRow := ⟨raw.location.toNat, raw.line.toNat⟩

/-- A row of a variable table as it stands in the file. -/
structure RawVariableRow where
  /-- The first code location where the variable is visible. -/
  start : UInt16
  /-- The number of code locations where it is visible. -/
  length : UInt16
  /-- The index of its name. -/
  nameIndex : UInt16
  /-- The index of the descriptor of its type. -/
  signatureIndex : UInt16
  /-- The local variable slot that holds it. -/
  slot : UInt16

namespace RawVariableRow

/-- The five numbers of the row. -/
def bytes (raw : RawVariableRow) : Bytes :=
  twoBytes raw.start ++ twoBytes raw.length ++ twoBytes raw.nameIndex
    ++ twoBytes raw.signatureIndex ++ twoBytes raw.slot

/-- The row with its two texts looked up. -/
structure Denotes (pool : ConstantPool) (raw : RawVariableRow) (row : VariableRow) : Prop where
  name : pool.HoldsText raw.nameIndex.toNat row.name
  signature : pool.HoldsText raw.signatureIndex.toNat row.signature
  start : row.start = raw.start.toNat
  length : row.length = raw.length.toNat
  slot : row.slot = raw.slot.toNat

end RawVariableRow

/-- What an attribute in the code of a method stands for.  A table stands at the front of the body
of its attribute, and what is behind it counts for nothing. -/
inductive TableBody (pool : ConstantPool) : String → Bytes → CodeTable → Prop
  /-- A line table. -/
  | lines (rows : Counted RawLineRow) (slack : Bytes) :
      TableBody pool "LineNumberTable" (rows.bytes RawLineRow.bytes ++ slack)
        (.lines (rows.items.map RawLineRow.row))
  /-- A variable table. -/
  | locals (rows : Counted RawVariableRow) (slack : Bytes) {values : List VariableRow}
      (denotes : List.Forall₂ (RawVariableRow.Denotes pool) rows.items values) :
      TableBody pool "LocalVariableTable" (rows.bytes RawVariableRow.bytes ++ slack)
        (.locals values)
  /-- Any other body. -/
  | other {name : String} (body : Bytes) (notLines : name ≠ "LineNumberTable")
      (notLocals : name ≠ "LocalVariableTable") : TableBody pool name body .other

/-- The code of a method as it stands in the file. -/
structure RawCode where
  /-- The size of the operand stack. -/
  maxStack : UInt16
  /-- The number of local variable slots. -/
  maxLocals : UInt16
  /-- The instructions. -/
  instructions : Block
  /-- The exception table, eight bytes for each handler. -/
  handlers : Skipped 8
  /-- The attributes. -/
  attributes : Counted RawAttribute

/-- The sizes, the instructions, the exception table and the attributes. -/
def RawCode.bytes (raw : RawCode) : Bytes :=
  twoBytes raw.maxStack ++ twoBytes raw.maxLocals ++ raw.instructions.bytes
    ++ raw.handlers.bytes ++ raw.attributes.bytes RawAttribute.bytes

/-- What an attribute of a method stands for: the tables in its code. -/
inductive MethodBody (pool : ConstantPool) : String → Bytes → List CodeTable → Prop
  /-- The code of the method. -/
  | code (code : RawCode) (slack : Bytes) {tables : List CodeTable}
      (denotes : List.Forall₂ (RawAttribute.Denotes pool (TableBody pool))
        code.attributes.items tables) :
      MethodBody pool "Code" (code.bytes ++ slack) tables
  /-- Any other body. -/
  | other {name : String} (body : Bytes) (notCode : name ≠ "Code") : MethodBody pool name body []

/-! ### Members -/

/-- A method as it stands in the file. -/
structure RawMethod where
  /-- The modifier bits. -/
  accessFlags : UInt16
  /-- The index of the name. -/
  nameIndex : UInt16
  /-- The index of the descriptor of the type. -/
  descriptorIndex : UInt16
  /-- The attributes. -/
  attributes : Counted RawAttribute

namespace RawMethod

/-- The three numbers and the attributes. -/
def bytes (raw : RawMethod) : Bytes :=
  twoBytes raw.accessFlags ++ twoBytes raw.nameIndex ++ twoBytes raw.descriptorIndex
    ++ raw.attributes.bytes RawAttribute.bytes

/-- The rows of all tables of a kind, one table behind the other; nothing if there is no table. -/
def Joined {ρ : Type} (tables : List (List ρ)) : Option (List ρ) → Prop
  | none => tables = []
  | some rows => tables ≠ [] ∧ rows = tables.flatten

/-- The method with its texts looked up and its tables joined. -/
structure Denotes (pool : ConstantPool) (raw : RawMethod) (info : MethodInfo) : Prop where
  accessFlags : info.accessFlags = raw.accessFlags.toNat
  name : pool.HoldsText raw.nameIndex.toNat info.name
  descriptor : pool.HoldsText raw.descriptorIndex.toNat info.descriptor
  tables : ∃ tables : List (List CodeTable),
    List.Forall₂ (RawAttribute.Denotes pool (MethodBody pool)) raw.attributes.items tables ∧
    Joined (tables.flatten.filterMap CodeTable.lines?) info.lines ∧
    Joined (tables.flatten.filterMap CodeTable.locals?) info.locals

end RawMethod

/-- A field as it stands in the file.  Nobody looks at what its indices denote. -/
structure RawField where
  /-- The modifier bits. -/
  accessFlags : UInt16
  /-- The index of the name. -/
  nameIndex : UInt16
  /-- The index of the descriptor of the type. -/
  descriptorIndex : UInt16
  /-- The attributes. -/
  attributes : Counted RawAttribute

/-- The three numbers and the attributes. -/
def RawField.bytes (raw : RawField) : Bytes :=
  twoBytes raw.accessFlags ++ twoBytes raw.nameIndex ++ twoBytes raw.descriptorIndex
    ++ raw.attributes.bytes RawAttribute.bytes

/-! ### Classes -/

/-- What an attribute of a class stands for: the source file, if it names one. -/
inductive ClassBody (pool : ConstantPool) : String → Bytes → Option String → Prop
  /-- The source file. -/
  | sourceFile (index : UInt16) (slack : Bytes) {file : String}
      (denotes : pool.HoldsText index.toNat file) :
      ClassBody pool "SourceFile" (twoBytes index ++ slack) (some file)
  /-- Any other body. -/
  | other {name : String} (body : Bytes) (notSource : name ≠ "SourceFile") :
      ClassBody pool name body none

/-- A class file as it stands, up to its last attribute. -/
structure RawClass where
  /-- The minor version of the format. -/
  minorVersion : UInt16
  /-- The major version of the format. -/
  majorVersion : UInt16
  /-- The constant pool. -/
  constants : RawPool
  /-- The modifier bits of the class. -/
  accessFlags : UInt16
  /-- The index of the class. -/
  thisClass : UInt16
  /-- The index of its superclass, which nobody looks up. -/
  superClass : UInt16
  /-- The indices of the interfaces. -/
  interfaces : Skipped 2
  /-- The fields. -/
  fields : Counted RawField
  /-- The methods. -/
  methods : Counted RawMethod
  /-- The attributes. -/
  attributes : Counted RawAttribute

namespace RawClass

/-- The magic number and then all parts. -/
def bytes (raw : RawClass) : Bytes :=
  fourBytes 0xCAFEBABE ++ twoBytes raw.minorVersion ++ twoBytes raw.majorVersion
    ++ raw.constants.bytes ++ twoBytes raw.accessFlags ++ twoBytes raw.thisClass
    ++ twoBytes raw.superClass ++ raw.interfaces.bytes ++ raw.fields.bytes RawField.bytes
    ++ raw.methods.bytes RawMethod.bytes ++ raw.attributes.bytes RawAttribute.bytes

/-- The class file with its texts looked up.  If several attributes name a source file, the last one
counts. -/
structure Denotes (raw : RawClass) (file : ClassFile) : Prop where
  minorVersion : file.minorVersion = raw.minorVersion.toNat
  majorVersion : file.majorVersion = raw.majorVersion.toNat
  accessFlags : file.accessFlags = raw.accessFlags.toNat
  thisClass : raw.constants.pool.HoldsClass raw.thisClass.toNat file.thisClass
  methods : List.Forall₂ (RawMethod.Denotes raw.constants.pool) raw.methods.items
    file.methods.toList
  sourceFile : ∃ files : List (Option String),
    List.Forall₂ (RawAttribute.Denotes raw.constants.pool (ClassBody raw.constants.pool))
      raw.attributes.items files ∧
    file.sourceFile = (files.filterMap id).getLast?

end RawClass
end ClosureSpan
