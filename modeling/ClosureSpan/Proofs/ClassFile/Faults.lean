import ClosureSpan.Proofs.ClassFile.CutOff
import ClosureSpan.Proofs.ClassFile.Incremental

/-!
# Where reading fails

A reader fails where one of its parts fails and all parts before it succeed.  For each primitive
reader and each way of putting readers together this module says which byte strings these are.
Most readers only ever miss bytes or a constant and never blame an attribute; behind such a reader
an attribute is blamed by what follows.

## Main definitions

* `Reader.Blameless read` — `read` never blames an attribute.

## Main results

* `bind_eq_error_iff`, `lift_eq_error_iff`, `u2_eq_error_iff`, `skip_eq_error_iff` — one part.
* `times_eq_error_iff`, `counted_eq_error_iff` — repeated reading fails at the first item that is
  not sound.
* `Blameless.bind_eq_short_iff` — behind a reader that blames no attribute.
* `ConstantPool.read_blameless` — the constant pool blames none.
-/

namespace ClosureSpan

namespace Reader

variable {α β L : Type} {write : L → Bytes} {Means : L → α → Prop}

/-! ### Where reading fails -/

theorem bind_eq_error_iff {read : Reader α} {next : α → Reader β} {bs : Bytes}
    {fault : ParseError} :
    (read >>= next) bs = .error fault ↔ read bs = .error fault ∨
      ∃ value rest, read bs = .ok (value, rest) ∧ next value rest = .error fault := by
  rw [run_bind]
  cases read bs with
  | error fault' => simp
  | ok result => obtain ⟨value, rest⟩ := result; simp

theorem pure_ne_error (value : α) (bs : Bytes) (fault : ParseError) :
    (pure value : Reader α) bs ≠ .error fault := by
  rw [run_pure]
  simp

/-- Nothing fails in putting together what was read. -/
theorem bind_pure_eq_error_iff {read : Reader α} {make : α → β} {bs : Bytes}
    {fault : ParseError} :
    (read >>= fun value => pure (make value)) bs = .error fault ↔ read bs = .error fault := by
  simp only [bind_eq_error_iff, pure_ne_error, and_false, exists_false, or_false]

theorem lift_eq_error_iff {outcome : Except ParseError α} {bs : Bytes} {fault : ParseError} :
    (liftM outcome : Reader α) bs = .error fault ↔ outcome = .error fault := by
  rw [run_lift]
  cases outcome <;> simp [Except.map]

theorem u1_eq_error_iff {bs : Bytes} {fault : ParseError} :
    u1 bs = .error fault ↔ bs.length < 1 ∧ fault = .unexpectedEnd := by
  cases bs with
  | nil => simp [u1, eq_comm]
  | cons a rest => simp [u1]

/-- A number of two bytes is missed where there are fewer than two. -/
theorem u2_eq_error_iff {bs : Bytes} {fault : ParseError} :
    u2 bs = .error fault ↔ bs.length < 2 ∧ fault = .unexpectedEnd := by
  rcases bs with _ | ⟨a, _ | ⟨b, rest⟩⟩
  · simp [u2, eq_comm]
  · simp [u2, eq_comm]
  · constructor
    · intro h
      cases h
    · rintro ⟨h, -⟩
      simp only [List.length_cons] at h
      omega

/-- A number of four bytes is missed where there are fewer than four. -/
theorem u4_eq_error_iff {bs : Bytes} {fault : ParseError} :
    u4 bs = .error fault ↔ bs.length < 4 ∧ fault = .unexpectedEnd := by
  rcases bs with _ | ⟨a, _ | ⟨b, _ | ⟨c, _ | ⟨d, rest⟩⟩⟩⟩
  · simp [u4, eq_comm]
  · simp [u4, eq_comm]
  · simp [u4, eq_comm]
  · simp [u4, eq_comm]
  · constructor
    · intro h
      cases h
    · rintro ⟨h, -⟩
      simp only [List.length_cons] at h
      omega

/-- A number is there or the bytes are too few for one. -/
theorem lt_two_or_exists_twoBytes (bs : Bytes) :
    bs.length < 2 ∨ ∃ n rest, bs = twoBytes n ++ rest := by
  cases h : u2 bs with
  | error fault => exact Or.inl (u2_eq_error_iff.mp h).1
  | ok result =>
    obtain ⟨n, rfl, -⟩ := (u2_reads _ _ result.2).mp h
    exact Or.inr ⟨n, result.2, rfl⟩

theorem bytes_eq_error_iff {n : Nat} {bs : Bytes} {fault : ParseError} :
    bytes n bs = .error fault ↔ bs.length < n ∧ fault = .unexpectedEnd := by
  rw [bytes_eq]
  split
  · next h =>
    constructor
    · intro hfault
      cases hfault
    · rintro ⟨hshort, -⟩
      omega
  · next h =>
    constructor
    · intro hfault
      exact ⟨Nat.lt_of_not_le h, (Except.error.inj hfault).symm⟩
    · rintro ⟨-, rfl⟩
      rfl

theorem skip_eq_error_iff {n : Nat} {bs : Bytes} {fault : ParseError} :
    skip n bs = .error fault ↔ bs.length < n ∧ fault = .unexpectedEnd := by
  unfold skip
  rw [bind_eq_error_iff, bytes_eq_error_iff]
  simp

/-- Items mean something together if each of them means something. -/
theorem exists_forall₂_iff {raws : List L} :
    (∃ values, List.Forall₂ Means raws values) ↔ ∀ raw ∈ raws, ∃ value, Means raw value := by
  induction raws with
  | nil => simp
  | cons raw raws ih =>
    rw [List.forall_mem_cons, ← ih]
    constructor
    · rintro ⟨_, h⟩
      cases h with
      | cons hraw hraws => exact ⟨⟨_, hraw⟩, _, hraws⟩
    · rintro ⟨⟨value, hraw⟩, values, hraws⟩
      exact ⟨value :: values, .cons hraw hraws⟩

/-- Reading many times fails at the first item that is not sound. -/
theorem times_eq_error_iff {read : Reader α} (h : Reads read write Means) {n : Nat} {bs : Bytes}
    {fault : ParseError} :
    times read n bs = .error fault ↔ ∃ (before : List L) (tail : Bytes),
      bs = before.flatMap write ++ tail ∧ before.length < n ∧
        (∀ raw ∈ before, ∃ value, Means raw value) ∧ read tail = .error fault := by
  induction n generalizing bs with
  | zero => simp
  | succ n ih =>
    simp only [times, bind_eq_error_iff, pure_ne_error, and_false, exists_false, or_false, ih]
    constructor
    · rintro (hfirst | ⟨value, _, hfirst, before, tail, rfl, hlength, hsound, hfault⟩)
      · exact ⟨[], bs, rfl, by simp, by simp, hfirst⟩
      · obtain ⟨raw, rfl, hraw⟩ := (h _ _ _).mp hfirst
        exact ⟨raw :: before, tail, by simp, by simpa using hlength,
          List.forall_mem_cons.mpr ⟨⟨value, hraw⟩, hsound⟩, hfault⟩
    · rintro ⟨before, tail, rfl, hlength, hsound, hfault⟩
      cases before with
      | nil => exact Or.inl hfault
      | cons raw before =>
        obtain ⟨⟨value, hraw⟩, hsound⟩ := List.forall_mem_cons.mp hsound
        refine Or.inr ⟨value, before.flatMap write ++ tail, ?_, before, tail, rfl,
          by simpa using hlength, hsound, hfault⟩
        exact (h _ _ _).mpr ⟨raw, List.append_assoc _ _ _, hraw⟩

/-- Reading counted items fails in the count or at the first item that is not sound. -/
theorem counted_eq_error_iff {read : Reader α} (h : Reads read write Means) {bs : Bytes}
    {fault : ParseError} :
    counted read bs = .error fault ↔ bs.length < 2 ∧ fault = .unexpectedEnd ∨
      AtItem write (fun raw => ∃ value, Means raw value)
        (fun tail => read tail = .error fault) bs := by
  unfold counted AtItem
  simp only [bind_eq_error_iff, u2_eq_error_iff, u2_reads _ _ _, times_eq_error_iff h]
  apply or_congr_right
  constructor
  · rintro ⟨_, _, ⟨count, rfl, rfl⟩, before, tail, rfl, hitem⟩
    exact ⟨count, before, tail, rfl, hitem⟩
  · rintro ⟨count, before, tail, rfl, hitem⟩
    exact ⟨_, _, ⟨count, rfl, rfl⟩, before, tail, rfl, hitem⟩

theorem skipEntries_eq_end_iff {size : Nat} {bs : Bytes} :
    skipEntries size bs = .error .unexpectedEnd ↔ Skipped.CutOff size bs := by
  unfold skipEntries Skipped.CutOff
  simp only [bind_eq_error_iff, u2_eq_error_iff, u2_reads _ _ _, skip_eq_error_iff, and_true]
  apply or_congr_right
  constructor
  · rintro ⟨_, cut, ⟨count, rfl, rfl⟩, hcut⟩
    exact ⟨count, cut, rfl, hcut⟩
  · rintro ⟨count, cut, rfl, hcut⟩
    exact ⟨_, cut, ⟨count, rfl, rfl⟩, hcut⟩

theorem skipBlock_eq_end_iff {bs : Bytes} :
    skipBlock bs = .error .unexpectedEnd ↔ Block.CutOff bs := by
  unfold skipBlock Block.CutOff
  simp only [bind_eq_error_iff, u4_eq_error_iff, u4_reads _ _ _, skip_eq_error_iff, and_true]
  apply or_congr_right
  constructor
  · rintro ⟨_, cut, ⟨length, rfl, rfl⟩, hcut⟩
    exact ⟨length, cut, rfl, hcut⟩
  · rintro ⟨length, cut, rfl, hcut⟩
    exact ⟨_, cut, ⟨length, rfl, rfl⟩, hcut⟩

/-! ### Readers that blame no attribute -/

/-- A reader that never blames an attribute. -/
def Blameless (read : Reader α) : Prop :=
  ∀ bs name, read bs ≠ .error (.shortAttribute name)

theorem Blameless.pure (value : α) : Blameless (pure value : Reader α) :=
  fun bs _ => pure_ne_error value bs _

theorem Blameless.lift {outcome : Except ParseError α}
    (h : ∀ name, outcome ≠ .error (.shortAttribute name)) :
    Blameless (liftM outcome : Reader α) :=
  fun _ name hfault => h name (lift_eq_error_iff.mp hfault)

/-- A reader that only ever misses bytes blames no attribute. -/
theorem Blameless.of_end {read : Reader α}
    (h : ∀ bs fault, read bs = .error fault → fault = .unexpectedEnd) : Blameless read := by
  intro bs name hfault
  cases h bs _ hfault

theorem Blameless.bind {read : Reader α} {next : α → Reader β} (h : Blameless read)
    (hnext : ∀ value, Blameless (next value)) : Blameless (read >>= next) := by
  intro bs name hfault
  rcases bind_eq_error_iff.mp hfault with hread | ⟨value, rest, -, hrest⟩
  · exact h bs name hread
  · exact hnext value rest name hrest

theorem Blameless.times {read : Reader α} (h : Blameless read) (n : Nat) :
    Blameless (times read n) := by
  induction n with
  | zero => exact .pure []
  | succ n ih => exact h.bind fun first => ih.bind fun others => .pure (first :: others)

/-- Behind a reader that blames no attribute, an attribute is blamed by what follows. -/
theorem Blameless.bind_eq_short_iff {read : Reader α} {next : α → Reader β} (h : Blameless read)
    {bs : Bytes} {name : String} :
    (read >>= next) bs = .error (.shortAttribute name) ↔
      ∃ value rest, read bs = .ok (value, rest) ∧
        next value rest = .error (.shortAttribute name) := by
  rw [bind_eq_error_iff]
  exact or_iff_right (h bs name)

theorem u1_blameless : Blameless u1 := .of_end fun _ _ h => (u1_eq_error_iff.mp h).2

theorem u2_blameless : Blameless u2 := .of_end fun _ _ h => (u2_eq_error_iff.mp h).2

theorem u4_blameless : Blameless u4 := .of_end fun _ _ h => (u4_eq_error_iff.mp h).2

theorem bytes_blameless (n : Nat) : Blameless (bytes n) :=
  .of_end fun _ _ h => (bytes_eq_error_iff.mp h).2

theorem skip_blameless (n : Nat) : Blameless (skip n) :=
  .of_end fun _ _ h => (skip_eq_error_iff.mp h).2

theorem skipEntries_blameless (size : Nat) : Blameless (skipEntries size) :=
  u2_blameless.bind fun count => skip_blameless (count * size)

theorem skipBlock_blameless : Blameless skipBlock := u4_blameless.bind skip_blameless

theorem Blameless.skipCounted {read : Reader Unit} (h : Blameless read) :
    Blameless (skipCounted read) :=
  (u2_blameless.bind h.times).bind fun _ => .pure ()

end Reader

open Reader

/-! ### The constant pool -/

theorem Constant.read_blameless : Blameless Constant.read := by
  rw [Constant.read_eq]
  refine u1_blameless.bind fun tag => ?_
  split
  · exact u2_blameless.bind fun length => (bytes_blameless length).bind fun _ => .pure _
  · split
    · exact u2_blameless.bind fun _ => .pure _
    · cases skippedSize? tag with
      | none => intro bs name h; simp at h
      | some size => exact (skip_blameless size).bind fun _ => .pure _

namespace ConstantPool

theorem readSlots_blameless (n : Nat) : Blameless (readSlots n) := by
  induction n using Nat.strongRecOn with
  | _ n ih =>
    cases n with
    | zero => exact .pure []
    | succ n =>
      rw [readSlots_succ]
      refine Constant.read_blameless.bind fun constant => ?_
      have := constant.length_slots_pos
      exact (ih _ (by omega)).bind fun others => .pure _

theorem read_blameless : Blameless ConstantPool.read :=
  u2_blameless.bind fun count => (readSlots_blameless (count - 1)).bind fun _ => .pure _

variable (pool : ConstantPool) (index : Nat)

theorem text_ne_end : pool.text index ≠ .error .unexpectedEnd := by
  intro h
  cases text_eq_error h

theorem text_blameless : Blameless (liftM (pool.text index) : Reader String) := by
  apply Blameless.lift
  intro name h
  cases text_eq_error h

theorem className_blameless : Blameless (liftM (pool.className index) : Reader String) := by
  apply Blameless.lift
  intro name h
  obtain ⟨blamed, hblamed⟩ := className_eq_error h
  cases hblamed

end ConstantPool

end ClosureSpan
