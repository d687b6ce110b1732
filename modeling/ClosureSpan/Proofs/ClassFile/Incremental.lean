import ClosureSpan.Proofs.ClassFile.Acceptance

/-!
# Reading a class file that is still arriving

A class file may arrive piece by piece.  Whatever has been read of it stays as it was read when more
bytes arrive, and so does every error but one: that the bytes end too soon is said only when more
bytes can mend it.  Both are properties of readers that are kept by every way of putting readers
together.  The body of an attribute is the one place where bytes can end for good; the reader of the
body is run on its own there, and its shortage is another error.

## Main definitions

* `Reader.Incremental read` — more bytes change nothing but an unexpected end, and can mend that.

## Main results

* `Incremental.bind`, `Incremental.times` — readers one after the other.
* `Attribute.read_incremental` — an attribute is incremental whatever reads its body.
* `ClassFile.parse_incremental` — **parsing is incremental, and an unexpected end means exactly that
  the bytes are too few.**
-/

namespace ClosureSpan
namespace Reader

variable {α β : Type}

/-! ### Incremental readers -/

/-- More bytes change nothing but an unexpected end, and some bytes mend it. -/
structure Incremental (read : Reader α) : Prop where
  /-- What was read stays as it was read, and the further bytes are left. -/
  ok {bs rest : Bytes} {value : α} (more : Bytes) :
    read bs = .ok (value, rest) → read (bs ++ more) = .ok (value, rest ++ more)
  /-- An error other than an unexpected end stays. -/
  error {bs : Bytes} {fault : ParseError} (more : Bytes) :
    read bs = .error fault → fault ≠ .unexpectedEnd → read (bs ++ more) = .error fault
  /-- Some further bytes are enough. -/
  completes (bs : Bytes) : ∃ more, read (bs ++ more) ≠ .error .unexpectedEnd

theorem Incremental.pure (value : α) : Incremental (pure value : Reader α) where
  ok more h := by
    obtain ⟨rfl, rfl⟩ := pure_eq_ok_iff.mp h
    rfl
  error more h := by simp at h
  completes bs := ⟨[], by simp⟩

/-- An outcome that needs no bytes is incremental if it is not an unexpected end. -/
theorem Incremental.lift {outcome : Except ParseError α} (h : outcome ≠ .error .unexpectedEnd) :
    Incremental (liftM outcome : Reader α) where
  ok more hok := by
    obtain ⟨rfl, rfl⟩ := lift_eq_ok_iff.mp hok
    rfl
  error more herror := by
    rw [run_lift] at herror ⊢
    cases outcome with
    | ok value => simp [Except.map] at herror
    | error fault => exact fun _ => herror
  completes bs := by
    refine ⟨[], ?_⟩
    rw [run_lift]
    cases outcome with
    | ok value => simp [Except.map]
    | error fault => simpa [Except.map] using h

theorem Incremental.throw {fault : ParseError} (h : fault ≠ .unexpectedEnd) :
    Incremental (throw fault : Reader α) where
  ok more hok := by simp at hok
  error more herror _ := by simpa using herror
  completes bs := ⟨[], by simpa using h⟩

/-- Nothing is read after an error. -/
theorem throw_bind (fault : ParseError) (next : α → Reader β) :
    (throw fault >>= next : Reader β) = throw fault := by
  funext bs
  rw [run_bind, run_throw, run_throw]

theorem Incremental.bind {read : Reader α} {next : α → Reader β} (h : Incremental read)
    (hnext : ∀ value, Incremental (next value)) : Incremental (read >>= next) where
  ok more hok := by
    obtain ⟨first, between, hfirst, hrest⟩ := bind_eq_ok_iff.mp hok
    exact bind_eq_ok_iff.mpr ⟨first, _, h.ok more hfirst, (hnext first).ok more hrest⟩
  error {bs fault} more herror hfault := by
    -- the error is that of the first reader or of the second one
    rw [run_bind] at herror ⊢
    cases hread : read bs with
    | error fault' =>
      obtain rfl : fault' = fault := by simpa [hread] using herror
      rw [h.error more hread hfault]
    | ok result =>
      obtain ⟨first, between⟩ := result
      rw [hread] at herror
      rw [h.ok more hread]
      exact (hnext first).error more herror hfault
  completes bs := by
    -- first complete the first reader, then the second one where the first stopped
    obtain ⟨more, hmore⟩ := h.completes bs
    cases hread : read (bs ++ more) with
    | error fault =>
      have hfault : fault ≠ .unexpectedEnd := by simpa [hread] using hmore
      refine ⟨more, ?_⟩
      rw [run_bind, hread]
      simpa using hfault
    | ok result =>
      obtain ⟨first, between⟩ := result
      obtain ⟨more', hmore'⟩ := (hnext first).completes between
      refine ⟨more ++ more', ?_⟩
      rw [run_bind, ← List.append_assoc, h.ok more' hread]
      exact hmore'

/-- A reader that only ever misses bytes, and no more than `n` of them, is incremental. -/
theorem Incremental.of_reads {L : Type} {read : Reader α} {write : L → Bytes}
    {Means : L → α → Prop} (h : Reads read write Means) (n : Nat)
    (honly : ∀ bs fault, read bs = .error fault → fault = .unexpectedEnd ∧ bs.length < n) :
    Incremental read where
  ok more hok := by
    obtain ⟨raw, rfl, hmeans⟩ := (h _ _ _).mp hok
    exact (h _ _ _).mpr ⟨raw, List.append_assoc _ _ _, hmeans⟩
  error more herror hfault := absurd (honly _ _ herror).1 hfault
  completes bs := by
    -- any bytes do, for no reader asks more of them than that they are there
    refine ⟨List.replicate n 0, fun herror => ?_⟩
    have := (honly _ _ herror).2
    rw [List.length_append, List.length_replicate] at this
    omega

theorem u1_incremental : Incremental u1 := by
  refine .of_reads u1_reads 1 fun bs fault h => ?_
  match bs with
  | [] => exact ⟨(Except.error.inj h).symm, by simp⟩
  | _ :: _ => simp [u1] at h

theorem u2_incremental : Incremental u2 := by
  refine .of_reads u2_reads 2 fun bs fault h => ?_
  match bs with
  | [] | [_] => exact ⟨(Except.error.inj h).symm, by simp⟩
  | _ :: _ :: _ => simp [u2] at h

theorem u4_incremental : Incremental u4 := by
  refine .of_reads u4_reads 4 fun bs fault h => ?_
  match bs with
  | [] | [_] | [_, _] | [_, _, _] => exact ⟨(Except.error.inj h).symm, by simp⟩
  | _ :: _ :: _ :: _ :: _ => simp [u4] at h

theorem bytes_incremental (n : Nat) : Incremental (bytes n) where
  ok more h := by
    obtain ⟨rfl, hlen⟩ := bytes_eq_ok_iff.mp h
    exact bytes_eq_ok_iff.mpr ⟨List.append_assoc _ _ _, hlen⟩
  error {bs fault} more h hfault := by
    rw [bytes_eq] at h
    split at h
    · simp at h
    · exact absurd (Except.error.inj h).symm hfault
  completes bs := by
    refine ⟨List.replicate n 0, ?_⟩
    rw [bytes_eq, if_pos (by simp)]
    simp

theorem skip_incremental (n : Nat) : Incremental (skip n) :=
  (bytes_incremental n).bind fun _ => .pure ()

theorem Incremental.times {read : Reader α} (h : Incremental read) (n : Nat) :
    Incremental (times read n) := by
  induction n with
  | zero => exact .pure []
  | succ n ih => exact h.bind fun first => ih.bind fun others => .pure (first :: others)

end Reader

open Reader

/-! ### The constant pool -/

theorem Constant.read_incremental : Incremental Constant.read := by
  rw [Constant.read_eq]
  refine u1_incremental.bind fun tag => ?_
  split
  · exact u2_incremental.bind fun length => (bytes_incremental length).bind fun _ => .pure _
  · split
    · exact u2_incremental.bind fun _ => .pure _
    · cases skippedSize? tag with
      | none => exact .throw (by simp)
      | some size => exact (skip_incremental size).bind fun _ => .pure _

namespace ConstantPool

theorem readSlots_incremental (n : Nat) : Incremental (readSlots n) := by
  induction n using Nat.strongRecOn with
  | _ n ih =>
    cases n with
    | zero => exact .pure []
    | succ n =>
      rw [readSlots_succ]
      refine Constant.read_incremental.bind fun constant => ?_
      have := constant.length_slots_pos
      exact (ih _ (by omega)).bind fun others => .pure _

theorem read_incremental : Incremental ConstantPool.read :=
  u2_incremental.bind fun count => (readSlots_incremental (count - 1)).bind fun _ => .pure _

theorem get_eq_error {pool : ConstantPool} {index : Nat} {fault : ParseError}
    (h : pool.get index = .error fault) : fault = .badIndex index := by
  unfold ConstantPool.get at h
  split at h
  · cases h
  · exact (Except.error.inj h).symm

/-- A missing text is blamed on its index. -/
theorem text_eq_error {pool : ConstantPool} {index : Nat} {fault : ParseError}
    (h : pool.text index = .error fault) : fault = .badIndex index := by
  unfold ConstantPool.text at h
  cases hget : pool.get index with
  | error fault' =>
    obtain rfl : fault' = fault := by simpa [hget, bind, Except.bind] using h
    exact get_eq_error hget
  | ok constant => cases constant <;> simp_all [bind, Except.bind, eq_comm]

/-- A missing class name is blamed on one of the two indices that lead to it. -/
theorem className_eq_error {pool : ConstantPool} {index : Nat} {fault : ParseError}
    (h : pool.className index = .error fault) : ∃ blamed, fault = .badIndex blamed := by
  unfold ConstantPool.className at h
  cases hget : pool.get index with
  | error fault' =>
    obtain rfl : fault' = fault := by simpa [hget, bind, Except.bind] using h
    exact ⟨index, get_eq_error hget⟩
  | ok constant =>
    rw [hget] at h
    cases constant with
    | classRef nameIndex => exact ⟨nameIndex, text_eq_error h⟩
    | _ => exact ⟨index, (Except.error.inj h).symm⟩

variable (pool : ConstantPool) (index : Nat)

theorem text_incremental : Incremental (liftM (pool.text index) : Reader String) :=
  .lift fun h => by simpa using text_eq_error h

theorem className_incremental : Incremental (liftM (pool.className index) : Reader String) :=
  .lift fun h => by simpa using className_eq_error h

end ConstantPool

/-! ### Attributes and members -/

namespace Attribute

variable {α : Type} (pool : ConstantPool) (body : String → Reader α)

/-- The body of an attribute is read on its own, so what it lacks is never an unexpected end. -/
theorem ofBody_ne_unexpectedEnd (name : String) (outcome : Except ParseError (α × Bytes)) :
    ofBody name outcome ≠ .error .unexpectedEnd := by
  unfold ofBody
  split <;> simp_all

theorem read_incremental : Incremental (Attribute.read pool body) :=
  u2_incremental.bind fun nameIndex => u4_incremental.bind fun length =>
    (pool.text_incremental nameIndex).bind fun name => (bytes_incremental length).bind fun _ =>
      .lift (ofBody_ne_unexpectedEnd name _)

theorem readAll_incremental : Incremental (readAll pool body) :=
  u2_incremental.bind fun count => (read_incremental pool body).times count

theorem skipAll_incremental : Incremental skipAll := by
  have hskip : Incremental Attribute.skip :=
    (skip_incremental 2).bind fun _ => u4_incremental.bind fun length => skip_incremental length
  exact u2_incremental.bind fun count => (hskip.times count).bind fun _ => .pure ()

end Attribute

theorem MethodInfo.read_incremental (pool : ConstantPool) :
    Incremental (MethodInfo.read pool) :=
  u2_incremental.bind fun _ => u2_incremental.bind fun nameIndex =>
    (pool.text_incremental nameIndex).bind fun _ => u2_incremental.bind fun descriptorIndex =>
      (pool.text_incremental descriptorIndex).bind fun _ =>
        (Attribute.readAll_incremental pool (readBody pool)).bind fun _ => .pure _

namespace ClassFile

theorem skipField_incremental : Incremental skipField :=
  (skip_incremental 6).bind fun _ => Attribute.skipAll_incremental

theorem read_incremental : Incremental ClassFile.read := by
  refine u4_incremental.bind fun number => ?_
  dsimp only
  split
  · rw [throw_bind]
    exact .throw (by simp)
  · exact u2_incremental.bind fun _ => u2_incremental.bind fun _ =>
      ConstantPool.read_incremental.bind fun pool => u2_incremental.bind fun _ =>
      u2_incremental.bind fun thisClass => (pool.className_incremental thisClass).bind fun _ =>
      u2_incremental.bind fun _ => u2_incremental.bind fun interfaces =>
      (skip_incremental (interfaces * 2)).bind fun _ => u2_incremental.bind fun fields =>
      (skipField_incremental.times fields).bind fun _ => u2_incremental.bind fun methods =>
      ((MethodInfo.read_incremental pool).times methods).bind fun _ =>
      (Attribute.readAll_incremental pool (readBody pool)).bind fun _ => .pure _

theorem parse_eq_error {bs : Bytes} {fault : ParseError} :
    ClassFile.parse bs = .error fault ↔ ClassFile.read bs = .error fault := by
  unfold ClassFile.parse StateT.run
  cases ClassFile.read bs <;> simp

/-- **Parsing is incremental, and an unexpected end means exactly that the bytes are too few.** -/
theorem parse_incremental :
    (∀ bs more, ClassFile.parse bs ≠ .error .unexpectedEnd →
      ClassFile.parse (bs ++ more) = ClassFile.parse bs) ∧
    (∀ bs, ClassFile.parse bs = .error .unexpectedEnd →
      ∃ more, ClassFile.parse (bs ++ more) ≠ .error .unexpectedEnd) ∧
    (∀ front bs file, front <+: bs → ClassFile.parse bs = .ok file →
      ClassFile.parse front = .ok file ∨ ClassFile.parse front = .error .unexpectedEnd) := by
  have happend : ∀ bs more, ClassFile.parse bs ≠ .error .unexpectedEnd →
      ClassFile.parse (bs ++ more) = ClassFile.parse bs := by
    intro bs more h
    cases hparse : ClassFile.parse bs with
    | ok file =>
      obtain ⟨rest, hread⟩ := parse_eq_ok.mp hparse
      exact parse_eq_ok.mpr ⟨_, read_incremental.ok more hread⟩
    | error fault =>
      rw [hparse] at h
      rw [parse_eq_error] at hparse ⊢
      exact read_incremental.error more hparse (by simpa using h)
  refine ⟨happend, ?_, ?_⟩
  · intro bs _
    obtain ⟨more, hmore⟩ := read_incremental.completes bs
    exact ⟨more, fun h => hmore (parse_eq_error.mp h)⟩
  · -- a front that is not too short parses like the whole
    rintro front _ file ⟨more, rfl⟩ hparse
    by_cases h : ClassFile.parse front = .error .unexpectedEnd
    · exact Or.inr h
    · exact Or.inl (happend front more h ▸ hparse)

/-- A class named `A` without members. -/
def emptyClass : Bytes :=
  [0xCA, 0xFE, 0xBA, 0xBE, 0, 0, 0, 52, 0, 3, 1, 0, 1, 0x41, 7, 0, 1, 0, 0, 0, 2, 0, 0, 0, 0, 0, 0,
    0, 0, 0, 0]

/-- A wrong magic number is reported whatever follows, and a cut of a class can be completed. -/
theorem parse_incremental_emptyClass :
    ClassFile.parse ([0, 0, 0, 0] ++ emptyClass) = ClassFile.parse [0, 0, 0, 0] ∧
      (∃ more, ClassFile.parse (emptyClass.take 12 ++ more) ≠ .error .unexpectedEnd) ∧
      (ClassFile.parse (emptyClass.take 30) = .ok ⟨0, 52, 0, "A", #[], none⟩ ∨
        ClassFile.parse (emptyClass.take 30) = .error .unexpectedEnd) :=
  ⟨parse_incremental.1 _ _ (by decide +kernel), parse_incremental.2.1 _ (by decide +kernel),
    parse_incremental.2.2 _ emptyClass _ (List.take_prefix _ _) (by decide +kernel)⟩

end ClassFile
end ClosureSpan
