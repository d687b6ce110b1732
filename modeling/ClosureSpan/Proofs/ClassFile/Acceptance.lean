import ClosureSpan.Proofs.ClassFile.Reading

/-!
# Which byte strings are class files

The reader of class files is sound and complete for the layout of `RawClass`: it succeeds on a byte
string if and only if the byte string begins with the bytes of a laid-out class file, and gives what
that file denotes.  The proof follows the four levels of the format, with one equivalence for each
reader, and no reader is opened outside its own equivalence.

## Main results

* `ConstantPool.read_reads` — the constant pool, of which the last constant may overhang.
* `Attribute.readAll_reads` — attributes, given what their bodies stand for.
* `CodeTable.readCode_reads`, `MethodInfo.read_reads` — the tables of a method.
* `ClassFile.parse_eq_ok_iff` — **the parser accepts exactly its format and reads it right.**
-/

namespace ClosureSpan

open Reader

/-! ### Constants -/

/-- The reader of a constant, with the tags that are skipped in one place. -/
theorem Constant.read_eq : Constant.read = u1 >>= fun tag =>
    if tag = 1 then do
      let length ← u2
      let contents ← bytes length
      pure (.text (ModifiedUtf8.decode contents))
    else if tag = 7 then do
      let nameIndex ← u2
      pure (.classRef nameIndex)
    else match skippedSize? tag with
      | some size => do
        skip size
        pure (if tag ∈ [5, 6] then .wide else .other)
      | none => throw (.badTag tag) := by
  unfold Constant.read
  congr 1
  funext tag
  split <;> simp_all [skippedSize?]

theorem Constant.read_reads :
    Reads Constant.read RawConstant.bytes fun raw constant => constant = raw.constant := by
  intro bs constant rest
  rw [Constant.read_eq]
  simp only [bind_eq_ok_iff, u1_reads _ _ _]
  constructor
  · rintro ⟨_, bs, ⟨tag, rfl, rfl⟩, h⟩
    -- the tag says which constant it was
    split at h
    · next htag =>
      simp only [bind_eq_ok_iff, u2_reads _ _ _, bytes_eq_ok_iff, pure_eq_ok_iff] at h
      obtain ⟨_, _, ⟨length, rfl, rfl⟩, contents, _, ⟨rfl, hlen⟩, rfl, rfl⟩ := h
      refine ⟨.text contents (hlen ▸ length.toNat_lt), ?_, rfl⟩
      obtain rfl : tag = 1 := UInt8.toNat_inj.mp htag
      simp [RawConstant.bytes, hlen]
    · split at h
      · next htag =>
        simp only [bind_eq_ok_iff, u2_reads _ _ _, pure_eq_ok_iff] at h
        obtain ⟨_, _, ⟨nameIndex, rfl, rfl⟩, rfl, rfl⟩ := h
        obtain rfl : tag = 7 := UInt8.toNat_inj.mp htag
        exact ⟨.classRef nameIndex, rfl, rfl⟩
      · cases hsize : skippedSize? tag.toNat with
        | none => simp [hsize] at h
        | some size =>
          rw [hsize] at h
          simp only [bind_eq_ok_iff, skip_eq_ok_iff, pure_eq_ok_iff] at h
          obtain ⟨-, _, ⟨payload, rfl, rfl⟩, rfl, rfl⟩ := h
          exact ⟨.skipped tag payload hsize, rfl, rfl⟩
  · rintro ⟨raw, rfl, rfl⟩
    cases raw with
    | text contents fits =>
      refine ⟨1, twoBytes (UInt16.ofNat contents.length) ++ (contents ++ rest),
        ⟨1, by simp [RawConstant.bytes], rfl⟩, ?_⟩
      rw [if_pos rfl]
      simp only [bind_eq_ok_iff, u2_reads _ _ _, bytes_eq_ok_iff, pure_eq_ok_iff]
      refine ⟨_, _, ⟨UInt16.ofNat contents.length, rfl, rfl⟩, contents, rest, ⟨rfl, ?_⟩, rfl, rfl⟩
      rw [UInt16.toNat_ofNat', Nat.mod_eq_of_lt fits]
    | classRef nameIndex =>
      refine ⟨7, _, ⟨7, rfl, rfl⟩, ?_⟩
      rw [if_neg (by decide), if_pos rfl]
      simp only [bind_eq_ok_iff, u2_reads _ _ _, pure_eq_ok_iff]
      exact ⟨_, _, ⟨nameIndex, rfl, rfl⟩, rfl, rfl⟩
    | skipped tag payload known =>
      refine ⟨tag.toNat, payload ++ rest, ⟨tag, rfl, rfl⟩, ?_⟩
      -- no tag of a constant that is looked at has a size
      have htext : tag.toNat ≠ 1 := by intro h; simp [h, skippedSize?] at known
      have hclass : tag.toNat ≠ 7 := by intro h; simp [h, skippedSize?] at known
      rw [if_neg htext, if_neg hclass, known]
      simp only [bind_eq_ok_iff, skip_eq_ok_iff, pure_eq_ok_iff]
      exact ⟨(), rest, ⟨payload, rfl, rfl⟩, rfl, rfl⟩

/-! ### The constant pool -/

theorem Constant.length_slots_pos (constant : Constant) : 0 < constant.slots.length := by
  cases constant <;> simp [Constant.slots]

/-- A wide constant takes one index more than any other. -/
theorem Constant.length_slots (constant : Constant) :
    constant.slots.length = if constant = .wide then 2 else 1 := by
  cases constant <;> rfl

/-- Whatever the first constant takes is missing from what the others have to fill. -/
theorem ConstantPool.readSlots_succ (n : Nat) :
    readSlots (n + 1) = Constant.read >>= fun constant =>
      readSlots (n + 1 - constant.slots.length) >>= fun others =>
        pure (constant.slots ++ others) := by
  cases n with
  | zero =>
    unfold readSlots
    congr 1
    funext constant
    rw [Nat.sub_eq_zero_of_le (Nat.succ_le_of_lt constant.length_slots_pos)]
    simp
  | succ n =>
    rw [readSlots]
    congr 1
    funext constant
    rw [constant.length_slots]
    split <;> rfl

theorem fillsExactly_zero_iff {raws : List RawConstant} : FillsExactly 0 raws ↔ raws = [] := by
  constructor
  · rintro ⟨-, hleast⟩
    -- a last constant would be one too many
    rcases List.eq_nil_or_concat raws with h | ⟨front, last, h⟩
    · exact h
    · exact absurd (hleast front last (by simpa using h)) (Nat.not_lt_zero _)
  · rintro rfl
    exact ⟨Nat.zero_le _, by simp⟩

theorem not_fillsExactly_nil (n : Nat) : ¬ FillsExactly (n + 1) [] := by
  rintro ⟨h, -⟩
  simp at h

theorem fillsExactly_cons_iff {n : Nat} {raw : RawConstant} {raws : List RawConstant} :
    FillsExactly (n + 1) (raw :: raws) ↔ FillsExactly (n + 1 - raw.slots.length) raws := by
  constructor
  · rintro ⟨henough, hleast⟩
    rw [List.flatMap_cons, List.length_append] at henough
    refine ⟨by omega, ?_⟩
    rintro front last rfl
    -- with `raw` before it, a front of `raws` is a front of all constants
    have := hleast (raw :: front) last rfl
    rw [List.flatMap_cons, List.length_append] at this
    omega
  · rintro ⟨henough, hleast⟩
    refine ⟨by rw [List.flatMap_cons, List.length_append]; omega, ?_⟩
    intro front last h
    cases front with
    | nil => simp
    | cons first front =>
      obtain ⟨rfl, rfl⟩ : raw = first ∧ raws = front ++ [last] := by simpa using h
      have := hleast front last rfl
      rw [List.flatMap_cons, List.length_append]
      omega

theorem ConstantPool.readSlots_reads (n : Nat) :
    Reads (readSlots n) (fun raws : List RawConstant => raws.flatMap RawConstant.bytes)
      fun raws slots => FillsExactly n raws ∧ slots = raws.flatMap RawConstant.slots := by
  -- a constant may fill two indices at once, so the induction is on all smaller numbers
  induction n using Nat.strongRecOn with
  | _ n ih =>
    intro bs slots rest
    cases n with
    | zero =>
      unfold readSlots
      simp only [pure_eq_ok_iff, fillsExactly_zero_iff]
      constructor
      · rintro ⟨rfl, rfl⟩; exact ⟨[], rfl, rfl, rfl⟩
      · rintro ⟨_, rfl, rfl, rfl⟩; exact ⟨rfl, rfl⟩
    | succ n =>
      rw [readSlots_succ]
      simp only [bind_eq_ok_iff, Constant.read_reads _ _ _, pure_eq_ok_iff]
      constructor
      · rintro ⟨_, _, ⟨raw, rfl, rfl⟩, others, _, hothers, rfl, rfl⟩
        have hpos := raw.constant.length_slots_pos
        rw [ih _ (by omega)] at hothers
        obtain ⟨raws, rfl, hfills, rfl⟩ := hothers
        exact ⟨raw :: raws, by simp, fillsExactly_cons_iff.mpr hfills, rfl⟩
      · rintro ⟨raws, rfl, hfills, rfl⟩
        cases raws with
        | nil => exact absurd hfills (not_fillsExactly_nil n)
        | cons raw raws =>
          have hpos := raw.constant.length_slots_pos
          refine ⟨_, _, ⟨raw, List.append_assoc _ _ _, rfl⟩, raws.flatMap RawConstant.slots, rest,
            ?_, rfl, rfl⟩
          rw [ih _ (by omega)]
          exact ⟨raws, rfl, fillsExactly_cons_iff.mp hfills, rfl⟩

theorem ConstantPool.read_reads :
    Reads ConstantPool.read RawPool.bytes fun raw pool => pool = raw.pool := by
  intro bs pool rest
  unfold ConstantPool.read
  simp only [bind_eq_ok_iff, u2_reads _ _ _, readSlots_reads _ _ _ _, pure_eq_ok_iff]
  constructor
  · rintro ⟨_, _, ⟨count, rfl, rfl⟩, _, _, ⟨raws, rfl, hfills, rfl⟩, rfl, rfl⟩
    exact ⟨⟨count, raws, hfills⟩, by simp [RawPool.bytes], rfl⟩
  · rintro ⟨⟨count, raws, hfills⟩, rfl, rfl⟩
    exact ⟨_, _, ⟨count, List.append_assoc _ _ _, rfl⟩, _, rest, ⟨raws, rfl, hfills, rfl⟩, rfl, rfl⟩

/-! ### Looking an index up -/

namespace ConstantPool

variable {pool : ConstantPool} {index : Nat}

theorem get_eq_ok_iff {constant : Constant} :
    pool.get index = .ok constant ↔ pool.slots[index]? = some (some constant) := by
  unfold ConstantPool.get
  split <;> simp_all

theorem text_eq_ok_iff {text : String} :
    pool.text index = .ok text ↔ pool.HoldsText index text := by
  unfold ConstantPool.text HoldsText
  rw [← get_eq_ok_iff]
  cases pool.get index with
  | error fault => simp [bind, Except.bind]
  | ok constant => cases constant <;> simp [bind, Except.bind]

theorem className_eq_ok_iff {name : String} :
    pool.className index = .ok name ↔ pool.HoldsClass index name := by
  unfold ConstantPool.className HoldsClass
  simp only [← get_eq_ok_iff, ← text_eq_ok_iff]
  cases pool.get index with
  | error fault => simp [bind, Except.bind]
  | ok constant => cases constant <;> simp [bind, Except.bind]

end ConstantPool

/-! ### Attributes -/

namespace Attribute

variable {α : Type} {pool : ConstantPool} {body : String → Reader α}
  {Body : String → Bytes → α → Prop}

/-- A reader of bodies reads what the bodies stand for, and what it leaves of a body counts for
nothing. -/
def ReadsBody (body : String → Reader α) (Body : String → Bytes → α → Prop) : Prop :=
  ∀ name contents value,
    (∃ slack, (body name) contents = .ok (value, slack)) ↔ Body name contents value

theorem ofBody_eq_ok_iff {name : String} {outcome : Except ParseError (α × Bytes)} {value : α} :
    ofBody name outcome = .ok value ↔ ∃ slack, outcome = .ok (value, slack) := by
  unfold ofBody
  split <;> simp

theorem read_reads (h : ReadsBody body Body) :
    Reads (Attribute.read pool body) RawAttribute.bytes (RawAttribute.Denotes pool Body) := by
  intro bs value rest
  unfold Attribute.read
  simp only [bind_eq_ok_iff, u2_reads _ _ _, u4_reads _ _ _, bytes_eq_ok_iff, lift_eq_ok_iff,
    ConstantPool.text_eq_ok_iff, ofBody_eq_ok_iff, StateT.run, h _ _ _]
  constructor
  · rintro ⟨_, _, ⟨nameIndex, rfl, rfl⟩, _, _, ⟨length, rfl, rfl⟩, name, _, ⟨hname, rfl⟩,
      contents, _, ⟨rfl, hlen⟩, hbody, rfl⟩
    obtain ⟨block, rfl, hblock⟩ := Block.exists_bytes_eq hlen
    refine ⟨⟨nameIndex, block⟩, ?_, name, hname, hbody⟩
    simp [RawAttribute.bytes, hblock]
  · rintro ⟨⟨nameIndex, block⟩, rfl, name, hname, hbody⟩
    refine ⟨_, _, ⟨nameIndex, List.append_assoc _ _ _, rfl⟩, _, _,
      ⟨_, List.append_assoc _ _ _, rfl⟩, name, _, ⟨hname, rfl⟩, _, rest,
      ⟨rfl, block.toNat_length.symm⟩, hbody, rfl⟩

theorem readAll_reads (h : ReadsBody body Body) :
    Reads (readAll pool body) (Counted.bytes RawAttribute.bytes)
      fun raw values => List.Forall₂ (RawAttribute.Denotes pool Body) raw.items values :=
  (read_reads h).counted

/-- Skipping asks nothing of an attribute. -/
theorem skip_reads : Reads Attribute.skip RawAttribute.bytes fun _ _ => True := by
  intro bs value rest
  change (Reader.skip 2 >>= fun _ => skipBlock) bs = _ ↔ _
  simp only [bind_eq_ok_iff, skip_two_reads _ _ _, skipBlock_reads _ _ _]
  constructor
  · rintro ⟨-, _, ⟨nameIndex, rfl, -⟩, block, rfl, -⟩
    exact ⟨⟨nameIndex, block⟩, (List.append_assoc _ _ _).symm, trivial⟩
  · rintro ⟨⟨nameIndex, block⟩, rfl, -⟩
    exact ⟨(), _, ⟨nameIndex, List.append_assoc _ _ _, trivial⟩, block, rfl, trivial⟩

theorem skipAll_eq : skipAll = skipCounted Attribute.skip := by
  unfold skipAll skipCounted counted
  rw [bind_assoc]

theorem skipAll_reads : Reads skipAll (Counted.bytes RawAttribute.bytes) fun _ _ => True := by
  rw [skipAll_eq]
  exact skip_reads.skipCounted

end Attribute

/-! ### The tables of a method -/

namespace CodeTable

open Attribute

variable {pool : ConstantPool}

theorem readLineRow_reads :
    Reads readLineRow RawLineRow.bytes fun raw row => raw.row = row := by
  intro bs row rest
  unfold readLineRow
  simp only [bind_eq_ok_iff, u2_reads _ _ _, pure_eq_ok_iff]
  constructor
  · rintro ⟨_, _, ⟨location, rfl, rfl⟩, _, _, ⟨line, rfl, rfl⟩, rfl, rfl⟩
    exact ⟨⟨location, line⟩, by simp [RawLineRow.bytes], rfl⟩
  · rintro ⟨⟨location, line⟩, rfl, rfl⟩
    exact ⟨_, _, ⟨location, List.append_assoc _ _ _, rfl⟩, _, _, ⟨line, rfl, rfl⟩, rfl, rfl⟩

theorem readVariableRow_reads :
    Reads (readVariableRow pool) RawVariableRow.bytes (RawVariableRow.Denotes pool) := by
  intro bs row rest
  unfold readVariableRow
  simp only [bind_eq_ok_iff, u2_reads _ _ _, lift_eq_ok_iff, ConstantPool.text_eq_ok_iff,
    pure_eq_ok_iff]
  constructor
  · rintro ⟨_, _, ⟨start, rfl, rfl⟩, _, _, ⟨length, rfl, rfl⟩, _, _, ⟨nameIndex, rfl, rfl⟩, name, _,
      ⟨hname, rfl⟩, _, _, ⟨signatureIndex, rfl, rfl⟩, signature, _, ⟨hsignature, rfl⟩, _, _,
      ⟨slot, rfl, rfl⟩, rfl, rfl⟩
    exact ⟨⟨start, length, nameIndex, signatureIndex, slot⟩, by simp [RawVariableRow.bytes],
      hname, hsignature, rfl, rfl, rfl⟩
  · rintro ⟨⟨start, length, nameIndex, signatureIndex, slot⟩, rfl, h⟩
    obtain ⟨name, signature, _, _, _⟩ := row
    obtain ⟨hname, hsignature, rfl, rfl, rfl⟩ := h
    refine ⟨_, _, ⟨start, ?_, rfl⟩, _, _, ⟨length, rfl, rfl⟩, _, _, ⟨nameIndex, rfl, rfl⟩, name, _,
      ⟨hname, rfl⟩, _, _, ⟨signatureIndex, rfl, rfl⟩, signature, _, ⟨hsignature, rfl⟩, _, _,
      ⟨slot, rfl, rfl⟩, rfl, rfl⟩
    simp [RawVariableRow.bytes]

/-- The rows of a table are read behind their number, and then the table is known. -/
theorem exists_table_iff {ρ L : Type} {read : Reader ρ} {write : L → Bytes} {Means : L → ρ → Prop}
    (h : Reads read write Means) (make : List ρ → CodeTable) {contents : Bytes}
    {table : CodeTable} :
    (∃ slack, (u2 >>= fun count => times read count >>= fun rows => pure (make rows)) contents
        = .ok (table, slack)) ↔
      ∃ raw : Counted L, ∃ slack rows, contents = raw.bytes write ++ slack ∧
        List.Forall₂ Means raw.items rows ∧ table = make rows := by
  have hcounted : (u2 >>= fun count => times read count >>= fun rows => pure (make rows)) =
      counted read >>= fun rows => pure (make rows) := by rw [counted, bind_assoc]
  simp only [hcounted, bind_eq_ok_iff, h.counted _ _ _, pure_eq_ok_iff]
  constructor
  · rintro ⟨slack, rows, _, ⟨raw, rfl, hrows⟩, rfl, rfl⟩
    exact ⟨raw, _, rows, rfl, hrows, rfl⟩
  · rintro ⟨raw, slack, rows, rfl, hrows, rfl⟩
    exact ⟨slack, rows, slack, ⟨raw, rfl, hrows⟩, rfl, rfl⟩

theorem readBody_reads : ReadsBody (readBody pool) (TableBody pool) := by
  intro name contents table
  unfold readBody
  split
  · next hname =>
    rw [exists_table_iff readLineRow_reads]
    constructor
    · rintro ⟨raw, slack, rows, rfl, hrows, rfl⟩
      rw [← List.forall₂_map_left_iff, List.forall₂_eq_eq_eq] at hrows
      subst hname hrows
      exact .lines raw slack
    · intro h
      -- the name stays a variable here, since `cases` cannot tell string literals apart
      cases h with
      | lines raw slack =>
        refine ⟨raw, slack, _, rfl, ?_, rfl⟩
        rw [← List.forall₂_map_left_iff, List.forall₂_eq_eq_eq]
      | locals => simp at hname
      | other _ hlines => exact absurd hname hlines
  · next hlines =>
    split
    · next hname =>
      rw [exists_table_iff readVariableRow_reads]
      constructor
      · rintro ⟨raw, slack, rows, rfl, hrows, rfl⟩
        subst hname
        exact .locals raw slack hrows
      · intro h
        cases h with
        | lines => simp at hname
        | locals raw slack hrows => exact ⟨raw, slack, _, rfl, hrows, rfl⟩
        | other _ _ hlocals => exact absurd hname hlocals
    · next hlocals =>
      simp only [pure_eq_ok_iff]
      constructor
      · rintro ⟨_, rfl, -⟩
        exact .other contents hlines hlocals
      · intro h
        cases h with
        | lines => exact absurd rfl hlines
        | locals => exact absurd rfl hlocals
        | other => exact ⟨contents, rfl, rfl⟩

theorem readCode_eq (pool : ConstantPool) : readCode pool = Reader.skip 4 >>= fun _ =>
    skipBlock >>= fun _ => skipEntries 8 >>= fun _ => readAll pool (readBody pool) := by
  unfold readCode skipBlock skipEntries
  simp only [bind_assoc]

theorem readCode_reads : Reads (readCode pool) RawCode.bytes fun raw tables =>
    List.Forall₂ (RawAttribute.Denotes pool (TableBody pool)) raw.attributes.items tables := by
  intro bs tables rest
  rw [readCode_eq]
  simp only [bind_eq_ok_iff, skip_eq_ok_iff, skipBlock_reads _ _ _, skipEntries_reads _ _ _ _,
    readAll_reads readBody_reads _ _ _]
  constructor
  · rintro ⟨-, _, ⟨sizes, rfl, hsizes⟩, -, _, ⟨instructions, rfl, -⟩, -, _, ⟨handlers, rfl, -⟩,
      attributes, rfl, hattributes⟩
    obtain ⟨maxStack, maxLocals, rfl⟩ := exists_twoBytes_append_eq hsizes
    exact ⟨⟨maxStack, maxLocals, instructions, handlers, attributes⟩, by simp [RawCode.bytes],
      hattributes⟩
  · rintro ⟨⟨maxStack, maxLocals, instructions, handlers, attributes⟩, rfl, hattributes⟩
    refine ⟨(), _, ⟨twoBytes maxStack ++ twoBytes maxLocals, ?_, rfl⟩, (), _,
      ⟨instructions, rfl, trivial⟩, (), _, ⟨handlers, rfl, trivial⟩, attributes, rfl, hattributes⟩
    simp [RawCode.bytes]

end CodeTable

/-! ### Members -/

namespace MethodInfo

open Attribute

variable {pool : ConstantPool}

theorem joined_iff {ρ : Type} {tables : List (List ρ)} {rows : Option (List ρ)} :
    RawMethod.Joined tables rows ↔ rows = gathered tables := by
  cases tables <;> cases rows <;> simp [RawMethod.Joined, gathered]

theorem readBody_reads : ReadsBody (readBody pool) (MethodBody pool) := by
  intro name contents tables
  unfold readBody
  split
  · next hname =>
    simp only [CodeTable.readCode_reads _ _ _]
    constructor
    · rintro ⟨slack, raw, rfl, htables⟩
      subst hname
      exact .code raw slack htables
    · intro h
      cases h with
      | code raw slack htables => exact ⟨slack, raw, rfl, htables⟩
      | other _ hcode => exact absurd hname hcode
  · next hcode =>
    simp only [pure_eq_ok_iff]
    constructor
    · rintro ⟨_, rfl, -⟩
      exact .other contents hcode
    · intro h
      cases h with
      | code => exact absurd rfl hcode
      | other => exact ⟨contents, rfl, rfl⟩

theorem read_reads :
    Reads (MethodInfo.read pool) RawMethod.bytes (RawMethod.Denotes pool) := by
  intro bs info rest
  unfold MethodInfo.read
  simp only [bind_eq_ok_iff, u2_reads _ _ _, lift_eq_ok_iff, ConstantPool.text_eq_ok_iff,
    readAll_reads readBody_reads _ _ _, pure_eq_ok_iff]
  constructor
  · rintro ⟨_, _, ⟨flags, rfl, rfl⟩, _, _, ⟨nameIndex, rfl, rfl⟩, name, _, ⟨hname, rfl⟩, _, _,
      ⟨descriptorIndex, rfl, rfl⟩, descriptor, _, ⟨hdescriptor, rfl⟩, tables, _,
      ⟨attributes, rfl, hattributes⟩, rfl, rfl⟩
    exact ⟨⟨flags, nameIndex, descriptorIndex, attributes⟩, by simp [RawMethod.bytes],
      rfl, hname, hdescriptor, tables, hattributes, joined_iff.mpr rfl, joined_iff.mpr rfl⟩
  · rintro ⟨⟨flags, nameIndex, descriptorIndex, attributes⟩, rfl, h⟩
    obtain ⟨_, name, descriptor, _, _⟩ := info
    obtain ⟨rfl, hname, hdescriptor, tables, hattributes, hlines, hlocals⟩ := h
    obtain rfl := joined_iff.mp hlines
    obtain rfl := joined_iff.mp hlocals
    refine ⟨_, _, ⟨flags, ?_, rfl⟩, _, _, ⟨nameIndex, rfl, rfl⟩, name, _, ⟨hname, rfl⟩, _, _,
      ⟨descriptorIndex, rfl, rfl⟩, descriptor, _, ⟨hdescriptor, rfl⟩, tables, _,
      ⟨attributes, rfl, hattributes⟩, rfl, rfl⟩
    simp [RawMethod.bytes]

end MethodInfo

namespace ClassFile

open Attribute

/-- Nothing is asked of a field either. -/
theorem skipField_reads : Reads skipField RawField.bytes fun _ _ => True := by
  intro bs value rest
  unfold skipField
  simp only [bind_eq_ok_iff, skip_eq_ok_iff, skipAll_reads _ _ _]
  constructor
  · rintro ⟨-, _, ⟨front, rfl, hfront⟩, attributes, rfl, -⟩
    obtain ⟨flags, nameIndex, descriptorIndex, rfl⟩ := exists_twoBytes_append_append_eq hfront
    exact ⟨⟨flags, nameIndex, descriptorIndex, attributes⟩, by simp [RawField.bytes], trivial⟩
  · rintro ⟨⟨flags, nameIndex, descriptorIndex, attributes⟩, rfl, -⟩
    exact ⟨(), _, ⟨twoBytes flags ++ twoBytes nameIndex ++ twoBytes descriptorIndex,
      List.append_assoc _ _ _, rfl⟩, attributes, rfl, trivial⟩

theorem readBody_reads {pool : ConstantPool} : ReadsBody (readBody pool) (ClassBody pool) := by
  intro name contents file?
  unfold readBody
  split
  · next hname =>
    simp only [bind_eq_ok_iff, u2_reads _ _ _, lift_eq_ok_iff, ConstantPool.text_eq_ok_iff,
      pure_eq_ok_iff]
    constructor
    · rintro ⟨slack, _, _, ⟨index, rfl, rfl⟩, file, _, ⟨hfile, rfl⟩, rfl, rfl⟩
      subst hname
      exact .sourceFile index _ hfile
    · intro h
      cases h with
      | sourceFile index slack hfile =>
        exact ⟨slack, _, _, ⟨index, rfl, rfl⟩, _, _, ⟨hfile, rfl⟩, rfl, rfl⟩
      | other _ hsource => exact absurd hname hsource
  · next hsource =>
    simp only [pure_eq_ok_iff]
    constructor
    · rintro ⟨_, rfl, -⟩
      exact .other contents hsource
    · intro h
      cases h with
      | sourceFile => exact absurd rfl hsource
      | other => exact ⟨contents, rfl, rfl⟩

/-! ### Classes -/

/-- The reader of a class, with the parts behind their numbers in one piece each. -/
theorem read_eq : ClassFile.read = u4 >>= fun number =>
    if number ≠ magic then throw (.badMagic number) else
      u2 >>= fun minorVersion => u2 >>= fun majorVersion => ConstantPool.read >>= fun pool =>
      u2 >>= fun accessFlags => u2 >>= fun thisIndex =>
      liftM (pool.className thisIndex) >>= fun thisClass => u2 >>= fun _ =>
      skipEntries 2 >>= fun _ => skipCounted skipField >>= fun _ =>
      counted (MethodInfo.read pool) >>= fun methods =>
      Attribute.readAll pool (readBody pool) >>= fun files => pure {
        minorVersion, majorVersion, accessFlags, thisClass
        methods := methods.toArray
        sourceFile := (files.filterMap id).getLast? } := by
  unfold ClassFile.read skipEntries skipCounted counted
  refine bind_congr fun number => ?_
  by_cases hmagic : number = magic
  · rw [if_neg (not_not.mpr hmagic), if_neg (not_not.mpr hmagic)]
    simp only [bind_assoc, pure_bind]
  · rw [if_pos hmagic, if_pos hmagic]
    rfl

theorem read_reads : Reads ClassFile.read RawClass.bytes RawClass.Denotes := by
  intro bs file rest
  rw [read_eq, bind_eq_ok_iff]
  constructor
  · rintro ⟨_, _, hnumber, h⟩
    obtain ⟨number, rfl, rfl⟩ := (u4_reads _ _ _).mp hnumber
    clear hnumber
    split at h
    · simp at h
    · next hmagic =>
      obtain rfl : number = 0xCAFEBABE := UInt32.toNat_inj.mp (not_not.mp hmagic)
      simp only [bind_eq_ok_iff, u2_reads _ _ _, lift_eq_ok_iff, ConstantPool.read_reads _ _ _,
        ConstantPool.className_eq_ok_iff, skipEntries_reads _ _ _ _,
        skipField_reads.skipCounted _ _ _, MethodInfo.read_reads.counted _ _ _,
        readAll_reads readBody_reads _ _ _, pure_eq_ok_iff] at h
      -- equations are substituted together: one at a time, each would rewrite all that follows
      obtain ⟨_, _, ⟨minor, _, _⟩, _, _, ⟨major, _, _⟩, _, _, ⟨pool, _, _⟩, _, _, ⟨flags, _, _⟩,
        _, _, ⟨this, _, _⟩, name, _, ⟨hname, _⟩, _, _, ⟨super, _, _⟩, -, _, ⟨interfaces, _, -⟩,
        -, _, ⟨fields, _, -⟩, methods, _, ⟨rawMethods, _, hmethods⟩, files, _,
        ⟨attributes, _, hattributes⟩, _, _⟩ := h
      subst_vars
      exact ⟨⟨minor, major, pool, flags, this, super, interfaces, fields, rawMethods, attributes⟩,
        by simp [RawClass.bytes], rfl, rfl, rfl, hname, hmethods, files, hattributes, rfl⟩
  · rintro ⟨raw, rfl, h⟩
    obtain ⟨minor, major, pool, flags, this, super, interfaces, fields, rawMethods, attributes⟩ :=
      raw
    obtain ⟨_, _, _, name, ⟨methods⟩, _⟩ := file
    obtain ⟨rfl, rfl, rfl, hname, hmethods, files, hattributes, rfl⟩ := h
    simp only [RawClass.bytes, List.append_assoc]
    refine ⟨_, _, (u4_reads _ _ _).mpr ⟨0xCAFEBABE, rfl, rfl⟩, ?_⟩
    rw [if_neg (not_not.mpr (show (0xCAFEBABE : UInt32).toNat = magic from rfl))]
    simp only [bind_eq_ok_iff, u2_reads _ _ _, lift_eq_ok_iff, ConstantPool.read_reads _ _ _,
      ConstantPool.className_eq_ok_iff, skipEntries_reads _ _ _ _,
      skipField_reads.skipCounted _ _ _, MethodInfo.read_reads.counted _ _ _,
      readAll_reads readBody_reads _ _ _, pure_eq_ok_iff]
    exact ⟨_, _, ⟨minor, rfl, rfl⟩, _, _, ⟨major, rfl, rfl⟩, _, _, ⟨pool, rfl, rfl⟩, _, _,
      ⟨flags, rfl, rfl⟩, _, _, ⟨this, rfl, rfl⟩, name, _, ⟨hname, rfl⟩, _, _, ⟨super, rfl, rfl⟩,
      (), _, ⟨interfaces, rfl, trivial⟩, (), _, ⟨fields, rfl, trivial⟩, methods, _,
      ⟨rawMethods, rfl, hmethods⟩, files, _, ⟨attributes, rfl, hattributes⟩, rfl, rfl⟩

theorem parse_eq_ok {bs : Bytes} {file : ClassFile} :
    ClassFile.parse bs = .ok file ↔ ∃ rest, ClassFile.read bs = .ok (file, rest) := by
  unfold ClassFile.parse StateT.run
  cases ClassFile.read bs <;> simp [Prod.ext_iff]

/-- **The parser accepts exactly its format and reads it right.** -/
theorem parse_eq_ok_iff (bs : Bytes) (file : ClassFile) :
    ClassFile.parse bs = .ok file ↔ ∃ raw : RawClass, raw.bytes <+: bs ∧ raw.Denotes file := by
  rw [parse_eq_ok]
  simp only [read_reads _ _ _]
  constructor
  · rintro ⟨rest, raw, rfl, h⟩
    exact ⟨raw, List.prefix_append _ _, h⟩
  · rintro ⟨raw, ⟨rest, rfl⟩, h⟩
    exact ⟨rest, raw, rfl, h⟩

end ClassFile
end ClosureSpan
