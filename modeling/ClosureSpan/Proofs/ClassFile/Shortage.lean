import ClosureSpan.Proofs.ClassFile.Framing

/-!
# Attributes that are too short

An attribute is blamed if its body, all of which is there, ends before what it has to hold.  The
error comes up from a table in the code of a method through the code, the method and the class, and
at each level an end of the bytes turns into the blame of an attribute or passes for an end of the
file.  Each reader gets two equivalences here, one for when its bytes end and one for when it blames
an attribute; the blame then goes to the attribute of which `Blames` says so.

## Main results

* `Attribute.read_eq_end_iff`, `Attribute.read_eq_short_iff` — the faults of an attribute.
* `CodeTable.readBody_eq_end_iff` — a table ends too soon.
* `CodeTable.readCode_eq_end_iff`, `CodeTable.readCode_eq_short_iff` — the faults of code.
* `ClassFile.blames_innermost` — **the innermost attribute that is too short is blamed.**
-/

namespace ClosureSpan

open Reader

/-! ### Attributes -/

namespace Attribute

variable {α : Type} {pool : ConstantPool} {body : String → Reader α}

theorem frame_eq_end_iff {bs : Bytes} :
    frame pool bs = .error .unexpectedEnd ↔ RawAttribute.CutOff pool bs := by
  unfold frame Attribute.read RawAttribute.CutOff
  simp only [bind_eq_error_iff, u2_eq_error_iff, u2_reads _ _ _, u4_eq_error_iff, u4_reads _ _ _,
    lift_eq_error_iff, lift_eq_ok_iff, ConstantPool.text_eq_ok_iff, bytes_eq_error_iff,
    ConstantPool.text_ne_end, ofBody_ne_unexpectedEnd, and_true, and_false, exists_false, or_false,
    false_or]
  constructor
  · rintro (hindex | ⟨_, _, ⟨nameIndex, rfl, rfl⟩, hlength | ⟨_, _, ⟨length, rfl, rfl⟩, name, cut,
      ⟨hname, rfl⟩, hcut⟩⟩)
    · exact Or.inl (by omega)
    · exact Or.inl (by simp only [List.length_append, length_twoBytes]; omega)
    · exact Or.inr ⟨nameIndex, length, _, name, rfl, hname, hcut⟩
  · rintro (hheader | ⟨nameIndex, length, cut, name, rfl, hname, hcut⟩)
    · -- the header ends in the index or in the length
      rcases lt_two_or_exists_twoBytes bs with hindex | ⟨nameIndex, rest, rfl⟩
      · exact Or.inl hindex
      · refine Or.inr ⟨_, rest, ⟨nameIndex, rfl, rfl⟩, Or.inl ?_⟩
        simp only [List.length_append, length_twoBytes] at hheader
        omega
    · exact Or.inr ⟨_, _, ⟨nameIndex, rfl, rfl⟩, Or.inr ⟨_, _, ⟨length, rfl, rfl⟩, name, cut,
        ⟨hname, rfl⟩, hcut⟩⟩

theorem frame_blameless : Blameless (frame pool) :=
  u2_blameless.bind fun nameIndex => u4_blameless.bind fun length =>
    (pool.text_blameless nameIndex).bind fun _ => (bytes_blameless length).bind fun _ =>
      .pure _

/-- Attributes end too soon only in a frame, whatever reads their bodies. -/
theorem read_eq_end_iff {bs : Bytes} :
    Attribute.read pool body bs = .error .unexpectedEnd ↔ RawAttribute.CutOff pool bs := by
  rw [read_eq_frame, bind_eq_error_iff, frame_eq_end_iff]
  simp only [lift_eq_error_iff, ofBody_ne_unexpectedEnd, and_false, exists_false, or_false]

theorem ofBody_eq_short_iff {name blamed : String} {outcome : Except ParseError (α × Bytes)} :
    ofBody name outcome = .error (.shortAttribute blamed) ↔
      outcome = .error .unexpectedEnd ∧ blamed = name ∨
        outcome = .error (.shortAttribute blamed) := by
  cases outcome with
  | ok result => simp [ofBody]
  | error fault => cases fault <;> simp [ofBody, eq_comm]

/-- An attribute is blamed for itself, or for what its body blames. -/
theorem read_eq_short_iff {bs : Bytes} {blamed : String} :
    Attribute.read pool body bs = .error (.shortAttribute blamed) ↔
      ∃ name, Standing pool name (fun contents =>
        body name contents = .error .unexpectedEnd ∧ blamed = name ∨
          body name contents = .error (.shortAttribute blamed)) bs := by
  rw [read_eq_frame, frame_blameless.bind_eq_short_iff]
  simp only [frame_reads _ _ _, lift_eq_error_iff, ofBody_eq_short_iff, StateT.run]
  constructor
  · rintro ⟨⟨name, _⟩, rest, ⟨raw, rfl, hname, rfl⟩, hbody⟩
    exact ⟨name, raw, rest, rfl, hname, hbody⟩
  · rintro ⟨name, raw, rest, rfl, hname, hbody⟩
    exact ⟨⟨name, _⟩, rest, ⟨raw, rfl, hname, rfl⟩, hbody⟩

theorem skipAll_blameless : Blameless skipAll := by
  have hskip : Blameless Attribute.skip :=
    (skip_blameless 2).bind fun _ => u4_blameless.bind fun length => skip_blameless length
  exact u2_blameless.bind fun count => (hskip.times count).bind fun _ => .pure ()

variable {Body : String → Bytes → α → Prop}

theorem readAll_eq_end_iff (h : ReadsBody body Body) {bs : Bytes} :
    readAll pool body bs = .error .unexpectedEnd ↔
      CountedCutOff RawAttribute.bytes (fun raw => ∃ value, raw.Denotes pool Body value)
        (RawAttribute.CutOff pool) bs := by
  show counted (Attribute.read pool body) bs = _ ↔ _
  rw [counted_eq_error_iff (read_reads h)]
  simp only [read_eq_end_iff, and_true]
  rfl

/-- Attributes blame one of them if it has the name whose bodies lead to this blame. -/
theorem readAll_eq_short_iff (h : ReadsBody body Body) {blamed own : String}
    {AtFault : Bytes → Prop}
    (hbody : ∀ name contents, body name contents = .error .unexpectedEnd ∧ blamed = name ∨
        body name contents = .error (.shortAttribute blamed) ↔ name = own ∧ AtFault contents)
    {bs : Bytes} :
    readAll pool body bs = .error (.shortAttribute blamed) ↔
      AtItem RawAttribute.bytes (fun raw => ∃ value, raw.Denotes pool Body value)
        (Standing pool own AtFault) bs := by
  have hstanding : ∀ tail, (∃ name, Standing pool name
      (fun contents => name = own ∧ AtFault contents) tail) ↔ Standing pool own AtFault tail := by
    intro tail
    constructor
    · rintro ⟨_, raw, rest, rfl, hname, rfl, hfault⟩
      exact ⟨raw, rest, rfl, hname, hfault⟩
    · rintro ⟨raw, rest, rfl, hname, hfault⟩
      exact ⟨own, raw, rest, rfl, hname, rfl, hfault⟩
  show counted (Attribute.read pool body) bs = _ ↔ _
  rw [counted_eq_error_iff (read_reads h)]
  simp only [read_eq_short_iff, hbody, hstanding, reduceCtorEq, and_false, false_or]

end Attribute

/-! ### The tables of a method -/

namespace CodeTable

open Attribute

variable {pool : ConstantPool}

theorem readLineRow_eq_error_iff {bs : Bytes} {fault : ParseError} :
    readLineRow bs = .error fault ↔ bs.length < 4 ∧ fault = .unexpectedEnd := by
  unfold readLineRow
  simp only [bind_eq_error_iff, u2_eq_error_iff, u2_reads _ _ _, pure_ne_error, and_false,
    exists_false, or_false]
  constructor
  · rintro (⟨hshort, rfl⟩ | ⟨_, _, ⟨location, rfl, rfl⟩, hshort, rfl⟩)
    · exact ⟨by omega, rfl⟩
    · exact ⟨by simp only [List.length_append, length_twoBytes]; omega, rfl⟩
  · rintro ⟨hshort, rfl⟩
    rcases lt_two_or_exists_twoBytes bs with hlocation | ⟨location, rest, rfl⟩
    · exact Or.inl ⟨hlocation, rfl⟩
    · refine Or.inr ⟨_, rest, ⟨location, rfl, rfl⟩, ?_, rfl⟩
      simp only [List.length_append, length_twoBytes] at hshort
      omega

theorem readVariableRow_eq_end_iff {bs : Bytes} :
    readVariableRow pool bs = .error .unexpectedEnd ↔ RawVariableRow.CutOff pool bs := by
  unfold readVariableRow
  simp only [bind_eq_error_iff, u2_eq_error_iff, u2_reads _ _ _, lift_eq_error_iff,
    lift_eq_ok_iff, ConstantPool.text_eq_ok_iff, ConstantPool.text_ne_end, pure_ne_error,
    and_true, and_false, exists_false, or_false, false_or]
  constructor
  · rintro (hstart | ⟨_, _, ⟨start, rfl, rfl⟩, hlength | ⟨_, _, ⟨length, rfl, rfl⟩, hname |
      ⟨_, _, ⟨nameIndex, rfl, rfl⟩, name, _, ⟨hnamed, rfl⟩, hsignature |
      ⟨_, _, ⟨signatureIndex, rfl, rfl⟩, signature, _, ⟨htyped, rfl⟩, hslot⟩⟩⟩⟩)
    · exact .name _ (by omega)
    · exact .name _ (by simp only [List.length_append, length_twoBytes]; omega)
    · exact .name _ (by simp only [List.length_append, length_twoBytes]; omega)
    · exact .signature start length nameIndex _ hnamed hsignature
    · exact .slot start length nameIndex signatureIndex _ hnamed htyped hslot
  · intro h
    cases h with
    | name _ short =>
      rcases lt_two_or_exists_twoBytes bs with hstart | ⟨start, rest, rfl⟩
      · exact Or.inl hstart
      rcases lt_two_or_exists_twoBytes rest with hlength | ⟨length, rest, rfl⟩
      · exact Or.inr ⟨_, _, ⟨start, rfl, rfl⟩, Or.inl hlength⟩
      · refine Or.inr ⟨_, _, ⟨start, rfl, rfl⟩, Or.inr ⟨_, _, ⟨length, rfl, rfl⟩, Or.inl ?_⟩⟩
        simp only [List.length_append, length_twoBytes] at short
        omega
    | signature start length nameIndex cut named short =>
      exact Or.inr ⟨_, _, ⟨start, rfl, rfl⟩, Or.inr ⟨_, _, ⟨length, rfl, rfl⟩, Or.inr ⟨_, _,
        ⟨nameIndex, rfl, rfl⟩, _, _, ⟨named, rfl⟩, Or.inl short⟩⟩⟩
    | slot start length nameIndex signatureIndex cut named typed short =>
      exact Or.inr ⟨_, _, ⟨start, rfl, rfl⟩, Or.inr ⟨_, _, ⟨length, rfl, rfl⟩, Or.inr ⟨_, _,
        ⟨nameIndex, rfl, rfl⟩, _, _, ⟨named, rfl⟩, Or.inr ⟨_, _, ⟨signatureIndex, rfl, rfl⟩, _, _,
        ⟨typed, rfl⟩, short⟩⟩⟩⟩

/-- A table ends too soon if its rows do. -/
theorem table_eq_end_iff {ρ L : Type} {read : Reader ρ} {write : L → Bytes}
    {Means : L → ρ → Prop} (h : Reads read write Means) (make : List ρ → CodeTable)
    {bs : Bytes} :
    (u2 >>= fun count => times read count >>= fun rows => pure (make rows)) bs
        = .error .unexpectedEnd ↔
      CountedCutOff write (fun raw => ∃ row, Means raw row)
        (fun tail => read tail = .error .unexpectedEnd) bs := by
  have hcounted : (u2 >>= fun count => times read count >>= fun rows => pure (make rows)) =
      counted read >>= fun rows => pure (make rows) := by rw [counted, bind_assoc]
  rw [hcounted, bind_pure_eq_error_iff, counted_eq_error_iff h]
  simp only [and_true]
  rfl

theorem readBody_eq_end_iff {name : String} {bs : Bytes} :
    readBody pool name bs = .error .unexpectedEnd ↔ ShortTable pool name bs := by
  unfold readBody
  split
  · next hname =>
    rw [table_eq_end_iff readLineRow_reads]
    simp only [readLineRow_eq_error_iff, and_true, exists_eq']
    constructor
    · intro hshort
      subst hname
      exact .lines hshort
    · intro h
      -- the name stays a variable here, since `cases` cannot tell string literals apart
      cases h with
      | lines short => exact short
      | locals => simp at hname
  · next hlines =>
    split
    · next hname =>
      rw [table_eq_end_iff readVariableRow_reads]
      simp only [readVariableRow_eq_end_iff]
      constructor
      · intro hshort
        subst hname
        exact .locals hshort
      · intro h
        cases h with
        | lines => simp at hname
        | locals short => exact short
    · next hlocals =>
      constructor
      · intro h
        exact absurd h (pure_ne_error _ _ _)
      · intro h
        cases h with
        | lines => exact absurd rfl hlines
        | locals => exact absurd rfl hlocals

theorem readBody_blameless (name : String) : Blameless (readBody pool name) := by
  have hline : Blameless readLineRow :=
    u2_blameless.bind fun _ => u2_blameless.bind fun _ => .pure _
  have hvariable : Blameless (readVariableRow pool) :=
    u2_blameless.bind fun _ => u2_blameless.bind fun _ => u2_blameless.bind fun nameIndex =>
      (pool.text_blameless nameIndex).bind fun _ => u2_blameless.bind fun signatureIndex =>
        (pool.text_blameless signatureIndex).bind fun _ => u2_blameless.bind fun _ => .pure _
  unfold readBody
  split
  · exact u2_blameless.bind fun count => (hline.times count).bind fun _ => .pure _
  · split
    · exact u2_blameless.bind fun count => (hvariable.times count).bind fun _ => .pure _
    · exact .pure _

/-- Code ends too soon in one of its parts, the last of which is the last attribute. -/
theorem readCode_eq_end_iff {bs : Bytes} :
    readCode pool bs = .error .unexpectedEnd ↔ ShortCode pool bs := by
  rw [readCode_eq]
  simp only [bind_eq_error_iff, skip_eq_error_iff, skip_eq_ok_iff, skipBlock_eq_end_iff,
    skipBlock_reads _ _ _, skipEntries_eq_end_iff, skipEntries_reads _ _ _ _,
    readAll_eq_end_iff readBody_reads, and_true]
  constructor
  · rintro (hsizes | ⟨-, _, ⟨sizes, rfl, hlength⟩, h⟩)
    · exact .sizes bs hsizes
    · obtain ⟨maxStack, maxLocals, rfl⟩ := exists_twoBytes_append_eq hlength
      rcases h with hinstructions | ⟨-, _, ⟨instructions, rfl⟩, hhandlers |
        ⟨-, tail, ⟨handlers, rfl⟩, hattributes⟩⟩
      · exact .instructions maxStack maxLocals _ hinstructions
      · exact .handlers maxStack maxLocals instructions _ hhandlers
      · have := ShortCode.attributes ⟨maxStack, maxLocals, instructions, handlers⟩ tail hattributes
        simpa [RawCodeFront.bytes] using this
  · intro h
    cases h with
    | sizes _ short => exact Or.inl short
    | instructions maxStack maxLocals cut short =>
      exact Or.inr ⟨(), cut, ⟨_, rfl, rfl⟩, Or.inl short⟩
    | handlers maxStack maxLocals instructions cut short =>
      exact Or.inr ⟨(), _, ⟨_, rfl, rfl⟩, Or.inr ⟨(), cut, ⟨instructions, rfl⟩, Or.inl short⟩⟩
    | attributes front tail short =>
      refine Or.inr ⟨(), front.instructions.bytes ++ (front.handlers.bytes ++ tail),
        ⟨twoBytes front.maxStack ++ twoBytes front.maxLocals, ?_, rfl⟩, Or.inr ⟨(), _,
        ⟨front.instructions, rfl⟩, Or.inr ⟨(), tail, ⟨front.handlers, rfl⟩, short⟩⟩⟩
      simp [RawCodeFront.bytes]

/-- Code blames the first table in it that ends too soon. -/
theorem readCode_eq_short_iff {bs : Bytes} {blamed : String} :
    readCode pool bs = .error (.shortAttribute blamed) ↔
      ∃ (front : RawCodeFront) (tail : Bytes), bs = front.bytes ++ tail ∧
        AtItem RawAttribute.bytes (SoundTable pool)
          (Standing pool blamed (ShortTable pool blamed)) tail := by
  have hbody : ∀ name contents, readBody pool name contents = .error .unexpectedEnd ∧
      blamed = name ∨ readBody pool name contents = .error (.shortAttribute blamed) ↔
        name = blamed ∧ ShortTable pool blamed contents := by
    intro name contents
    rw [readBody_eq_end_iff, or_iff_left (readBody_blameless name contents blamed)]
    constructor
    · rintro ⟨hshort, rfl⟩
      exact ⟨rfl, hshort⟩
    · rintro ⟨rfl, hshort⟩
      exact ⟨hshort, rfl⟩
  rw [readCode_eq, (skip_blameless 4).bind_eq_short_iff]
  simp only [skipBlock_blameless.bind_eq_short_iff, (skipEntries_blameless 8).bind_eq_short_iff,
    skip_eq_ok_iff, skipBlock_reads _ _ _, skipEntries_reads _ _ _ _,
    readAll_eq_short_iff readBody_reads hbody]
  constructor
  · rintro ⟨-, _, ⟨sizes, rfl, hlength⟩, -, _, ⟨instructions, rfl, -⟩, -, tail,
      ⟨handlers, rfl, -⟩, hitem⟩
    obtain ⟨maxStack, maxLocals, rfl⟩ := exists_twoBytes_append_eq hlength
    exact ⟨⟨maxStack, maxLocals, instructions, handlers⟩, tail, by simp [RawCodeFront.bytes],
      hitem⟩
  · rintro ⟨front, tail, rfl, hitem⟩
    refine ⟨(), front.instructions.bytes ++ (front.handlers.bytes ++ tail),
      ⟨twoBytes front.maxStack ++ twoBytes front.maxLocals, ?_, rfl⟩, (), _,
      ⟨front.instructions, rfl, trivial⟩, (), tail, ⟨front.handlers, rfl, trivial⟩, hitem⟩
    simp [RawCodeFront.bytes]

theorem codeBlames_iff {contents : Bytes} {blamed : String} :
    CodeBlames pool contents blamed ↔
      readCode pool contents = .error .unexpectedEnd ∧ blamed = "Code" ∨
        readCode pool contents = .error (.shortAttribute blamed) := by
  rw [readCode_eq_end_iff, readCode_eq_short_iff]
  constructor
  · intro h
    cases h with
    | itself short => exact Or.inl ⟨short, rfl⟩
    | table front tail body_eq short => exact Or.inr ⟨front, tail, body_eq, short⟩
  · rintro (⟨hshort, rfl⟩ | ⟨front, tail, hbody, hshort⟩)
    · exact .itself hshort
    · exact .table front tail hbody hshort

end CodeTable

/-! ### Members -/

namespace MethodInfo

open Attribute

variable {pool : ConstantPool}

theorem readBody_eq_error_iff {name : String} {contents : Bytes} {fault : ParseError} :
    readBody pool name contents = .error fault ↔
      name = "Code" ∧ CodeTable.readCode pool contents = .error fault := by
  unfold readBody
  split
  · next hname => simp [hname]
  · next hname => simp [hname]

theorem read_eq_short_iff {bs : Bytes} {blamed : String} :
    MethodInfo.read pool bs = .error (.shortAttribute blamed) ↔ MethodBlames pool blamed bs := by
  have hbody : ∀ name contents, readBody pool name contents = .error .unexpectedEnd ∧
      blamed = name ∨ readBody pool name contents = .error (.shortAttribute blamed) ↔
        name = "Code" ∧ CodeBlames pool contents blamed := by
    intro name contents
    simp only [readBody_eq_error_iff, CodeTable.codeBlames_iff]
    constructor
    · rintro (⟨⟨rfl, hend⟩, rfl⟩ | ⟨rfl, hshort⟩)
      · exact ⟨rfl, Or.inl ⟨hend, rfl⟩⟩
      · exact ⟨rfl, Or.inr hshort⟩
    · rintro ⟨rfl, ⟨hend, rfl⟩ | hshort⟩
      · exact Or.inl ⟨⟨rfl, hend⟩, rfl⟩
      · exact Or.inr ⟨rfl, hshort⟩
  unfold MethodInfo.read MethodBlames
  simp only [u2_blameless.bind_eq_short_iff, (pool.text_blameless _).bind_eq_short_iff,
    bind_pure_eq_error_iff, u2_reads _ _ _, lift_eq_ok_iff, ConstantPool.text_eq_ok_iff,
    readAll_eq_short_iff readBody_reads hbody]
  constructor
  · rintro ⟨_, _, ⟨flags, rfl, rfl⟩, _, _, ⟨nameIndex, rfl, rfl⟩, name, _, ⟨hname, rfl⟩, _, _,
      ⟨descriptorIndex, rfl, rfl⟩, descriptor, tail, ⟨hdescriptor, rfl⟩, hitem⟩
    exact ⟨flags, nameIndex, descriptorIndex, name, descriptor, _, rfl, hname, hdescriptor, hitem⟩
  · rintro ⟨flags, nameIndex, descriptorIndex, name, descriptor, tail, rfl, hname, hdescriptor,
      hitem⟩
    exact ⟨_, _, ⟨flags, rfl, rfl⟩, _, _, ⟨nameIndex, rfl, rfl⟩, name, _, ⟨hname, rfl⟩, _, _,
      ⟨descriptorIndex, rfl, rfl⟩, descriptor, tail, ⟨hdescriptor, rfl⟩, hitem⟩

end MethodInfo

namespace ClassFile

open Attribute

theorem skipField_blameless : Blameless skipField :=
  (skip_blameless 6).bind fun _ => skipAll_blameless

theorem readBody_eq_end_iff {pool : ConstantPool} {name : String} {contents : Bytes} :
    readBody pool name contents = .error .unexpectedEnd ↔
      name = "SourceFile" ∧ contents.length < 2 := by
  unfold readBody
  split
  · next hname =>
    simp only [bind_eq_error_iff, u2_eq_error_iff, lift_eq_error_iff, ConstantPool.text_ne_end,
      pure_ne_error, hname, and_true, true_and, and_false, exists_false, or_false]
  · next hname =>
    simp [hname]

theorem readBody_blameless (pool : ConstantPool) (name : String) :
    Blameless (readBody pool name) := by
  unfold readBody
  split
  · exact u2_blameless.bind fun index => (pool.text_blameless index).bind fun _ => .pure _
  · exact .pure _

/-! ### Classes -/

/-- Among the attributes of a class, only the source file can be too short. -/
theorem readAll_eq_short_iff {pool : ConstantPool} {bs : Bytes} {blamed : String} :
    readAll pool (readBody pool) bs = .error (.shortAttribute blamed) ↔
      blamed = "SourceFile" ∧ AtItem RawAttribute.bytes (SoundClassAttribute pool)
        (Standing pool "SourceFile" (·.length < 2)) bs := by
  have hbody : ∀ name contents, readBody pool name contents = .error .unexpectedEnd ∧
      blamed = name ∨ readBody pool name contents = .error (.shortAttribute blamed) ↔
        name = "SourceFile" ∧ blamed = "SourceFile" ∧ contents.length < 2 := by
    intro name contents
    rw [readBody_eq_end_iff, or_iff_left (readBody_blameless pool name contents blamed)]
    constructor
    · rintro ⟨⟨rfl, hshort⟩, rfl⟩
      exact ⟨rfl, rfl, hshort⟩
    · rintro ⟨rfl, rfl, hshort⟩
      exact ⟨⟨rfl, hshort⟩, rfl⟩
  rw [Attribute.readAll_eq_short_iff readBody_reads hbody]
  constructor
  · rintro ⟨count, before, _, rfl, hlength, hsound, raw, rest, rfl, hname, rfl, hshort⟩
    exact ⟨rfl, count, before, _, rfl, hlength, hsound, raw, rest, rfl, hname, hshort⟩
  · rintro ⟨rfl, count, before, _, rfl, hlength, hsound, raw, rest, rfl, hname, hshort⟩
    exact ⟨count, before, _, rfl, hlength, hsound, raw, rest, rfl, hname, rfl, hshort⟩

/-- The methods and the attributes of a class, which the reader of a class ends with. -/
theorem members_eq_short_iff {pool : ConstantPool} {make : List MethodInfo → List (Option String) →
    ClassFile} {bs : Bytes} {blamed : String} :
    (counted (MethodInfo.read pool) >>= fun methods => readAll pool (readBody pool) >>=
        fun files => pure (make methods files) : Reader ClassFile) bs
        = .error (.shortAttribute blamed) ↔
      AtItem RawMethod.bytes (SoundMethod pool) (MethodBlames pool blamed) bs ∨
        ∃ (methods : Counted RawMethod) (tail : Bytes),
          bs = methods.bytes RawMethod.bytes ++ tail ∧
          (∀ raw ∈ methods.items, SoundMethod pool raw) ∧ blamed = "SourceFile" ∧
          AtItem RawAttribute.bytes (SoundClassAttribute pool)
            (Standing pool "SourceFile" (·.length < 2)) tail := by
  rw [bind_eq_error_iff, counted_eq_error_iff MethodInfo.read_reads]
  simp only [bind_pure_eq_error_iff, MethodInfo.read_eq_short_iff, readAll_eq_short_iff,
    MethodInfo.read_reads.counted _ _ _, reduceCtorEq, and_false, false_or]
  apply or_congr_right
  constructor
  · rintro ⟨infos, tail, ⟨methods, rfl, hmethods⟩, hblamed, hitem⟩
    exact ⟨methods, tail, rfl, exists_forall₂_iff.mp ⟨infos, hmethods⟩, hblamed, hitem⟩
  · rintro ⟨methods, tail, rfl, hsound, hblamed, hitem⟩
    obtain ⟨infos, hmethods⟩ := exists_forall₂_iff.mpr hsound
    exact ⟨infos, tail, ⟨methods, rfl, hmethods⟩, hblamed, hitem⟩

/-- Behind the magic number an attribute is blamed by what follows, and behind another number none
is. -/
theorem magic_eq_short_iff {next : Reader ClassFile} {bs : Bytes} {blamed : String} :
    (u4 >>= fun number => if number ≠ magic then throw (.badMagic number) else next) bs
        = .error (.shortAttribute blamed) ↔
      ∃ rest, bs = fourBytes 0xCAFEBABE ++ rest ∧ next rest = .error (.shortAttribute blamed) := by
  have hmagic : (0xCAFEBABE : UInt32).toNat = magic := rfl
  rw [u4_blameless.bind_eq_short_iff]
  constructor
  · rintro ⟨_, rest, hnumber, hfault⟩
    obtain ⟨number, rfl, rfl⟩ := (u4_reads _ _ _).mp hnumber
    split at hfault
    · simp at hfault
    · next heq =>
      obtain rfl : number = 0xCAFEBABE := UInt32.toNat_inj.mp (not_not.mp heq)
      exact ⟨rest, rfl, hfault⟩
  · rintro ⟨rest, rfl, hfault⟩
    refine ⟨_, rest, (u4_reads _ _ _).mpr ⟨_, rfl, rfl⟩, ?_⟩
    rwa [if_neg (not_not.mpr hmagic)]

theorem read_eq_short_iff {bs : Bytes} {blamed : String} :
    ClassFile.read bs = .error (.shortAttribute blamed) ↔ Blames bs blamed := by
  rw [read_eq, magic_eq_short_iff]
  simp only [u2_blameless.bind_eq_short_iff, ConstantPool.read_blameless.bind_eq_short_iff,
    (ConstantPool.className_blameless _ _).bind_eq_short_iff,
    (skipEntries_blameless _).bind_eq_short_iff, skipField_blameless.skipCounted.bind_eq_short_iff,
    members_eq_short_iff, u2_reads _ _ _, lift_eq_ok_iff, ConstantPool.read_reads _ _ _,
    ConstantPool.className_eq_ok_iff, skipEntries_reads _ _ _ _,
    skipField_reads.skipCounted _ _ _]
  constructor
  · intro h
    obtain ⟨_, _, _, _, ⟨minor, _, _⟩, _, _, ⟨major, _, _⟩, _, _, ⟨pool, _, _⟩, _, _,
      ⟨flags, _, _⟩, _, _, ⟨this, _, _⟩, name, _, ⟨hname, _⟩, _, _, ⟨super, _, _⟩, -, _,
      ⟨interfaces, _, -⟩, -, tail, ⟨fields, _, -⟩, hmembers⟩ := h
    -- all equations at once: one at a time, each would rewrite all that follows
    subst_vars
    rw [← RawClassFront.bytes_append
      ⟨minor, major, pool, flags, this, super, interfaces, fields⟩ tail]
    rcases hmembers with hitem | ⟨methods, tail, rfl, hmethods, rfl, hitem⟩
    · exact .code _ ⟨name, hname⟩ tail hitem
    · exact .sourceFile _ ⟨name, hname⟩ methods hmethods tail hitem
  · intro h
    obtain ⟨front, ⟨name, hname⟩, tail, rfl, hmembers⟩ := h.exists_members
    exact ⟨_, front.bytes_append tail, _, _, ⟨front.minorVersion, rfl, rfl⟩, _, _,
      ⟨front.majorVersion, rfl, rfl⟩, _, _, ⟨front.constants, rfl, rfl⟩, _, _,
      ⟨front.accessFlags, rfl, rfl⟩, _, _, ⟨front.thisClass, rfl, rfl⟩, name, _, ⟨hname, rfl⟩,
      _, _, ⟨front.superClass, rfl, rfl⟩, (), _, ⟨front.interfaces, rfl, trivial⟩, (), tail,
      ⟨front.fields, rfl, trivial⟩, hmembers⟩

/-- **The innermost attribute that is too short is blamed.**

The parser blames an attribute if and only if the file is sound up to it, its body is all there, and
the body ends too soon; in code that is the first table that ends too soon, or else the code itself.
Only four kinds of attributes are ever blamed. -/
theorem blames_innermost (bs : Bytes) (name : String) :
    (ClassFile.parse bs = .error (.shortAttribute name) ↔ Blames bs name) ∧
    (ClassFile.parse bs = .error (.shortAttribute name) →
      name ∈ ["Code", "LineNumberTable", "LocalVariableTable", "SourceFile"] ∧
      ∃ (front : RawClassFront) (raw : RawAttribute), front.bytes <+: bs ∧ raw.bytes <:+: bs ∧
        front.constants.pool.HoldsText raw.nameIndex.toNat name ∧
        ShortBody front.constants.pool raw.body.contents name) := by
  have hiff : ClassFile.parse bs = .error (.shortAttribute name) ↔ Blames bs name :=
    parse_eq_error.trans read_eq_short_iff
  refine ⟨hiff, ?_⟩
  intro h
  obtain ⟨front, raw, hfront, hraw, hname, hshort⟩ := (hiff.mp h).exists_short
  exact ⟨hshort.name_mem, front, raw, hfront, hraw, hname, hshort⟩

/-- A class with one method, whose code holds a line table that lacks a byte of its only row. -/
def cutLineTable : Bytes :=
  [0xCA, 0xFE, 0xBA, 0xBE, 0, 0, 0, 52, 0, 5, 1, 0, 1, 0x41, 7, 0, 1, 1, 0, 4, 0x43, 0x6F, 0x64,
    0x65, 1, 0, 15, 0x4C, 0x69, 0x6E, 0x65, 0x4E, 0x75, 0x6D, 0x62, 0x65, 0x72, 0x54, 0x61, 0x62,
    0x6C, 0x65, 0, 0, 0, 2, 0, 0, 0, 0, 0, 0, 0, 1, 0, 1, 0, 1, 0, 1, 0, 1, 0, 3, 0, 0, 0, 23, 0,
    0, 0, 0, 0, 0, 0, 0, 0, 0, 0, 1, 0, 4, 0, 0, 0, 5, 0, 1, 0, 0, 0, 0, 0]

/-- The line table is blamed and not the code that it stands in. -/
theorem blames_innermost_cutLineTable :
    ClassFile.parse cutLineTable = .error (.shortAttribute "LineNumberTable") ∧
      Blames cutLineTable "LineNumberTable" ∧
      "LineNumberTable" ∈ ["Code", "LineNumberTable", "LocalVariableTable", "SourceFile"] := by
  have hparse : ClassFile.parse cutLineTable = .error (.shortAttribute "LineNumberTable") := by
    decide +kernel
  exact ⟨hparse, (blames_innermost _ _).1.mp hparse, ((blames_innermost _ _).2 hparse).1⟩

end ClassFile

end ClosureSpan