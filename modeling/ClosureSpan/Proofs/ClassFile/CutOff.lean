import ClosureSpan.Proofs.ClassFile.Layout

/-!
# Parts that end too soon

The body of an attribute is as long as its header announces.  What the body has to hold may still
be longer, and that is the fault of the attribute: of a table if a table in the code of a method
ends too soon, and of the code if the code ends before its last attribute does.

This is said here from the side of whoever writes a class file: how a part ends too soon, how far a
file is sound, and which attribute stands there.  Nothing in this module reads bytes.

## Main definitions

* `AtItem` — how far counted items are sound, and what holds of the bytes from there on.
* `Skipped.CutOff`, `Block.CutOff`, `RawAttribute.CutOff`, `RawVariableRow.CutOff` — bytes with
  which a part begins, and which end before it does.
* `ShortTable`, `ShortCode`, `ShortBody` — bodies of attributes that end too soon.
* `CodeBlames`, `Blames` — the attribute at fault in code, and in a class file.

## Main results

* `Blames.exists_short` — the attribute at fault stands in the file and its body ends too soon.
-/

namespace ClosureSpan

/-! ### Bytes that end too soon -/

/-- Behind a count and some sound items, fewer than counted, `Here` holds of what follows. -/
def AtItem {L : Type} (write : L → Bytes) (Sound : L → Prop) (Here : Bytes → Prop) (bs : Bytes) :
    Prop :=
  ∃ (count : UInt16) (before : List L) (tail : Bytes),
    bs = twoBytes count ++ (before.flatMap write ++ tail) ∧ before.length < count.toNat ∧
      (∀ raw ∈ before, Sound raw) ∧ Here tail

/-- Counted items that end in their count or, behind sound ones, in an item. -/
def CountedCutOff {L : Type} (write : L → Bytes) (Sound : L → Prop) (ItemCutOff : Bytes → Prop)
    (bs : Bytes) : Prop :=
  bs.length < 2 ∨ AtItem write Sound ItemCutOff bs

/-- Entries of a fixed size that end in their count or before there are as many as counted. -/
def Skipped.CutOff (size : Nat) (bs : Bytes) : Prop :=
  bs.length < 2 ∨ ∃ (count : UInt16) (cut : Bytes),
    bs = twoBytes count ++ cut ∧ cut.length < count.toNat * size

/-- A block that ends in its length or before it is as long as announced. -/
def Block.CutOff (bs : Bytes) : Prop :=
  bs.length < 4 ∨ ∃ (length : UInt32) (cut : Bytes),
    bs = fourBytes length ++ cut ∧ cut.length < length.toNat

/-- An attribute that ends in its header or, if it has a name, before its body is as long as
announced. -/
def RawAttribute.CutOff (pool : ConstantPool) (bs : Bytes) : Prop :=
  bs.length < 6 ∨ ∃ (nameIndex : UInt16) (length : UInt32) (cut : Bytes) (name : String),
    bs = twoBytes nameIndex ++ (fourBytes length ++ cut) ∧
      pool.HoldsText nameIndex.toNat name ∧ cut.length < length.toNat

/-- A row of a variable table that ends in one of its numbers, and whose indices denote texts as
far as they are there. -/
inductive RawVariableRow.CutOff (pool : ConstantPool) : Bytes → Prop
  /-- In the start, the length or the index of the name. -/
  | name (cut : Bytes) (short : cut.length < 6) : CutOff pool cut
  /-- In the index of the descriptor. -/
  | signature (start length nameIndex : UInt16) (cut : Bytes) {name : String}
      (named : pool.HoldsText nameIndex.toNat name) (short : cut.length < 2) :
      CutOff pool (twoBytes start ++ (twoBytes length ++ (twoBytes nameIndex ++ cut)))
  /-- In the slot. -/
  | slot (start length nameIndex signatureIndex : UInt16) (cut : Bytes) {name signature : String}
      (named : pool.HoldsText nameIndex.toNat name)
      (typed : pool.HoldsText signatureIndex.toNat signature) (short : cut.length < 2) :
      CutOff pool (twoBytes start ++ (twoBytes length ++ (twoBytes nameIndex ++
        (twoBytes signatureIndex ++ cut))))

/-! ### Attributes that are too short -/

/-- A table that ends before its last row does. -/
inductive ShortTable (pool : ConstantPool) : String → Bytes → Prop
  /-- A line table. -/
  | lines {body : Bytes}
      (short : CountedCutOff RawLineRow.bytes (fun _ => True) (·.length < 4) body) :
      ShortTable pool "LineNumberTable" body
  /-- A variable table. -/
  | locals {body : Bytes}
      (short : CountedCutOff RawVariableRow.bytes (fun raw => ∃ row, raw.Denotes pool row)
        (RawVariableRow.CutOff pool) body) :
      ShortTable pool "LocalVariableTable" body

/-- What code begins with, before its attributes. -/
structure RawCodeFront where
  /-- The size of the operand stack. -/
  maxStack : UInt16
  /-- The number of local variable slots. -/
  maxLocals : UInt16
  /-- The instructions. -/
  instructions : Block
  /-- The exception table. -/
  handlers : Skipped 8

/-- The sizes, the instructions and the exception table. -/
def RawCodeFront.bytes (raw : RawCodeFront) : Bytes :=
  twoBytes raw.maxStack ++ twoBytes raw.maxLocals ++ raw.instructions.bytes ++ raw.handlers.bytes

/-- An attribute in code whose body is sound. -/
def SoundTable (pool : ConstantPool) (raw : RawAttribute) : Prop :=
  ∃ table, raw.Denotes pool (TableBody pool) table

/-- Code that ends before its last attribute does, however long that attribute's body has to be. -/
inductive ShortCode (pool : ConstantPool) : Bytes → Prop
  /-- In the sizes. -/
  | sizes (cut : Bytes) (short : cut.length < 4) : ShortCode pool cut
  /-- In the instructions or their length. -/
  | instructions (maxStack maxLocals : UInt16) (cut : Bytes) (short : Block.CutOff cut) :
      ShortCode pool (twoBytes maxStack ++ twoBytes maxLocals ++ cut)
  /-- In the exception table or its length. -/
  | handlers (maxStack maxLocals : UInt16) (instructions : Block) (cut : Bytes)
      (short : Skipped.CutOff 8 cut) :
      ShortCode pool (twoBytes maxStack ++ twoBytes maxLocals ++ (instructions.bytes ++ cut))
  /-- In the number of the attributes or, behind sound ones, in an attribute. -/
  | attributes (front : RawCodeFront) (tail : Bytes)
      (short : CountedCutOff RawAttribute.bytes (SoundTable pool) (RawAttribute.CutOff pool) tail) :
      ShortCode pool (front.bytes ++ tail)

/-- A whole attribute with this name stands here, and `Body` holds of its body. -/
def Standing (pool : ConstantPool) (name : String) (Body : Bytes → Prop) (bs : Bytes) : Prop :=
  ∃ (raw : RawAttribute) (rest : Bytes),
    bs = raw.bytes ++ rest ∧ pool.HoldsText raw.nameIndex.toNat name ∧ Body raw.body.contents

/-- The attribute at fault in the code of a method. -/
inductive CodeBlames (pool : ConstantPool) (body : Bytes) : String → Prop
  /-- The code itself, if it ends too soon. -/
  | itself (short : ShortCode pool body) : CodeBlames pool body "Code"
  /-- A table in it, if the code is sound up to that table and the table ends too soon. -/
  | table {name : String} (front : RawCodeFront) (tail : Bytes)
      (body_eq : body = front.bytes ++ tail)
      (short : AtItem RawAttribute.bytes (SoundTable pool)
        (Standing pool name (ShortTable pool name)) tail) :
      CodeBlames pool body name

/-- An attribute of a method whose body is sound. -/
def SoundMethodAttribute (pool : ConstantPool) (raw : RawAttribute) : Prop :=
  ∃ tables, raw.Denotes pool (MethodBody pool) tables

/-- A method that is sound up to code in which this attribute is at fault. -/
def MethodBlames (pool : ConstantPool) (name : String) (bs : Bytes) : Prop :=
  ∃ (accessFlags nameIndex descriptorIndex : UInt16) (text descriptor : String) (tail : Bytes),
    bs = twoBytes accessFlags ++ (twoBytes nameIndex ++ (twoBytes descriptorIndex ++ tail)) ∧
      pool.HoldsText nameIndex.toNat text ∧ pool.HoldsText descriptorIndex.toNat descriptor ∧
      AtItem RawAttribute.bytes (SoundMethodAttribute pool)
        (Standing pool "Code" fun body => CodeBlames pool body name) tail

/-- What a class file begins with, before its methods. -/
structure RawClassFront where
  /-- The minor version of the format. -/
  minorVersion : UInt16
  /-- The major version of the format. -/
  majorVersion : UInt16
  /-- The constant pool. -/
  constants : RawPool
  /-- The modifier bits of the class. -/
  accessFlags : UInt16
  /-- The index of the class. -/
  thisClass : UInt16
  /-- The index of its superclass. -/
  superClass : UInt16
  /-- The indices of the interfaces. -/
  interfaces : Skipped 2
  /-- The fields. -/
  fields : Counted RawField

namespace RawClassFront

/-- The magic number and the parts before the methods. -/
def bytes (raw : RawClassFront) : Bytes :=
  fourBytes 0xCAFEBABE ++ twoBytes raw.minorVersion ++ twoBytes raw.majorVersion
    ++ raw.constants.bytes ++ twoBytes raw.accessFlags ++ twoBytes raw.thisClass
    ++ twoBytes raw.superClass ++ raw.interfaces.bytes ++ raw.fields.bytes RawField.bytes

/-- The magic number stands apart, for it is read before all else. -/
theorem bytes_append (raw : RawClassFront) (tail : Bytes) :
    raw.bytes ++ tail = fourBytes 0xCAFEBABE ++ (twoBytes raw.minorVersion ++
      (twoBytes raw.majorVersion ++ (raw.constants.bytes ++ (twoBytes raw.accessFlags ++
        (twoBytes raw.thisClass ++ (twoBytes raw.superClass ++ (raw.interfaces.bytes ++
          (raw.fields.bytes RawField.bytes ++ tail)))))))) := by
  simp only [bytes, List.append_assoc]

/-- The index of the class denotes a class. -/
def Sound (raw : RawClassFront) : Prop :=
  ∃ name, raw.constants.pool.HoldsClass raw.thisClass.toNat name

end RawClassFront

/-- A method that is sound. -/
def SoundMethod (pool : ConstantPool) (raw : RawMethod) : Prop := ∃ info, raw.Denotes pool info

/-- An attribute of a class whose body is sound. -/
def SoundClassAttribute (pool : ConstantPool) (raw : RawAttribute) : Prop :=
  ∃ file, raw.Denotes pool (ClassBody pool) file

/-- The attribute at fault in a class file that is sound up to this attribute. -/
inductive Blames : Bytes → String → Prop
  /-- The code of a method, or a table in it. -/
  | code (front : RawClassFront) (sound : front.Sound) (tail : Bytes) {name : String}
      (short : AtItem RawMethod.bytes (SoundMethod front.constants.pool)
        (MethodBlames front.constants.pool name) tail) :
      Blames (front.bytes ++ tail) name
  /-- The attribute that names the source file, if its body has no room for an index. -/
  | sourceFile (front : RawClassFront) (sound : front.Sound) (methods : Counted RawMethod)
      (soundMethods : ∀ raw ∈ methods.items, SoundMethod front.constants.pool raw) (tail : Bytes)
      (short : AtItem RawAttribute.bytes (SoundClassAttribute front.constants.pool)
        (Standing front.constants.pool "SourceFile" (·.length < 2)) tail) :
      Blames (front.bytes ++ (methods.bytes RawMethod.bytes ++ tail)) "SourceFile"

/-! ### The attribute at fault -/

/-- The body of an attribute that ends too soon, by the name of the attribute. -/
inductive ShortBody (pool : ConstantPool) (body : Bytes) : String → Prop
  /-- Code. -/
  | code (short : ShortCode pool body) : ShortBody pool body "Code"
  /-- A table in code. -/
  | table {name : String} (short : ShortTable pool name body) : ShortBody pool body name
  /-- The source file, without room for an index. -/
  | sourceFile (short : body.length < 2) : ShortBody pool body "SourceFile"

variable {pool : ConstantPool} {bs : Bytes} {name : String}

theorem ShortBody.name_mem (h : ShortBody pool bs name) :
    name ∈ ["Code", "LineNumberTable", "LocalVariableTable", "SourceFile"] := by
  cases h with
  | code => simp
  | table short => cases short <;> simp
  | sourceFile => simp

/-- What stands at an item among others stands in the bytes of all of them. -/
theorem AtItem.exists_standing {L : Type} {write : L → Bytes} {Sound : L → Prop}
    {Body : Bytes → Prop} (h : AtItem write Sound (Standing pool name Body) bs) :
    ∃ raw : RawAttribute, raw.bytes <:+: bs ∧ pool.HoldsText raw.nameIndex.toNat name ∧
      Body raw.body.contents := by
  obtain ⟨count, before, _, rfl, -, -, raw, rest, rfl, hname, hbody⟩ := h
  refine ⟨raw, ?_, hname, hbody⟩
  exact ⟨twoBytes count ++ before.flatMap write, rest, by simp only [List.append_assoc]⟩

theorem RawAttribute.contents_infix (raw : RawAttribute) : raw.body.contents <:+: raw.bytes :=
  (List.suffix_append _ _).isInfix.trans (List.suffix_append _ _).isInfix

/-- Code that blames itself or a table in it has at fault what it blames. -/
theorem CodeBlames.exists_short {code : RawAttribute} (h : CodeBlames pool code.body.contents name)
    (hcode : pool.HoldsText code.nameIndex.toNat "Code") :
    ∃ raw : RawAttribute, raw.bytes <:+: code.bytes ∧ pool.HoldsText raw.nameIndex.toNat name ∧
      ShortBody pool raw.body.contents name := by
  cases h with
  | itself short => exact ⟨code, List.infix_refl _, hcode, .code short⟩
  | table front tail body_eq short =>
    obtain ⟨raw, hraw, hname, hshort⟩ := short.exists_standing
    refine ⟨raw, ?_, hname, .table hshort⟩
    -- the table stands in the body of the code
    have htail : tail <:+: code.body.contents := body_eq ▸ (List.suffix_append _ _).isInfix
    exact (hraw.trans htail).trans code.contents_infix

namespace Blames

/-- Whatever is at fault stands among the methods or among the attributes of the class. -/
theorem exists_members (h : Blames bs name) :
    ∃ front : RawClassFront, front.Sound ∧ ∃ tail, bs = front.bytes ++ tail ∧
      (AtItem RawMethod.bytes (SoundMethod front.constants.pool)
          (MethodBlames front.constants.pool name) tail ∨
        ∃ (methods : Counted RawMethod) (behind : Bytes),
          tail = methods.bytes RawMethod.bytes ++ behind ∧
          (∀ raw ∈ methods.items, SoundMethod front.constants.pool raw) ∧ name = "SourceFile" ∧
          AtItem RawAttribute.bytes (SoundClassAttribute front.constants.pool)
            (Standing front.constants.pool "SourceFile" (·.length < 2)) behind) := by
  cases h with
  | code front sound tail short => exact ⟨front, sound, tail, rfl, Or.inl short⟩
  | sourceFile front sound methods soundMethods behind short =>
    exact ⟨front, sound, _, rfl, Or.inr ⟨methods, behind, rfl, soundMethods, rfl, short⟩⟩

/-- The attribute at fault stands in the file with all of its body, and this ends too soon. -/
theorem exists_short (h : Blames bs name) :
    ∃ (front : RawClassFront) (raw : RawAttribute), front.bytes <+: bs ∧ raw.bytes <:+: bs ∧
      front.constants.pool.HoldsText raw.nameIndex.toNat name ∧
      ShortBody front.constants.pool raw.body.contents name := by
  obtain ⟨front, -, tail, rfl, hmethods | ⟨methods, behind, rfl, -, rfl, hfile⟩⟩ := h.exists_members
  · obtain ⟨count, before, _, rfl, -, -, flags, nameIndex, descriptorIndex, -, -, attributes, rfl,
      -, -, hcode⟩ := hmethods
    obtain ⟨code, hinfix, hname, hblames⟩ := hcode.exists_standing
    obtain ⟨raw, hraw, hname, hshort⟩ := hblames.exists_short hname
    refine ⟨front, raw, List.prefix_append _ _, (hraw.trans hinfix).trans ?_, hname, hshort⟩
    -- the attributes of the method are the last of what is there
    refine List.IsSuffix.isInfix ⟨front.bytes ++ (twoBytes count ++ (before.flatMap RawMethod.bytes
      ++ (twoBytes flags ++ (twoBytes nameIndex ++ twoBytes descriptorIndex)))), ?_⟩
    simp only [List.append_assoc]
  · obtain ⟨raw, hraw, hname, hshort⟩ := hfile.exists_standing
    refine ⟨front, raw, List.prefix_append _ _, hraw.trans ?_, hname, .sourceFile hshort⟩
    exact ((List.suffix_append _ _).trans (List.suffix_append _ _)).isInfix

end Blames
end ClosureSpan
