import ClosureSpan.Proofs.ClassFile.Faults

/-!
# The frames of attributes

Attributes are gone through in two ways.  One skips them.  The other shows each of them to a
visitor, which reads of a body what it likes, may remember something from one body to the next and
may refuse a body.  How much of a body it reads does not matter for where the next attribute
begins: both ways go by the frames, that is by the six bytes in front of a body and by the length
that these announce.

## Main definitions

* `positionBehind` — where a reader stands behind counted attributes.
* `Attribute.frame` — reads the frame of an attribute, which is its name and its body.
* `Attribute.Visitor`, `Attribute.visitAll` — a visitor, and how attributes are shown to it.
* `Visitor.takeAll` — what it says of attributes that are given as parts of a file.
* `Visitor.keeping` — the visitor that keeps what a reader reads in each body.
* `Visitor.recorded` — a visitor that also remembers all that it was shown.

## Main results

* `Attribute.readAll_eq_visitAll` — reading attributes is showing them to a keeping visitor.
* `Attribute.visitAll_bytes_append` — a visitor is shown exactly the attributes that stand there.
* `Attribute.shown_visitAll` — and so it is, as far as it gets, when they are cut off.
* `Attribute.agree_on_frames` — **both ways through attributes go by the same frames.**
-/

namespace ClosureSpan

@[simp] theorem length_twoBytes (n : UInt16) : (twoBytes n).length = 2 := rfl

@[simp] theorem length_fourBytes (n : UInt32) : (fourBytes n).length = 4 := rfl

/-- An attribute takes six bytes in front of its body, and its body. -/
theorem RawAttribute.length_bytes (raw : RawAttribute) :
    raw.bytes.length = 6 + raw.body.contents.length := by
  simp only [RawAttribute.bytes, Block.bytes, List.length_append, length_twoBytes,
    length_fourBytes]
  omega

/-- Where a reader stands that began at 0 and got past counted attributes: behind the count and,
for each attribute, behind the six bytes of its header and the length that they announce. -/
def positionBehind (raws : List RawAttribute) : Nat :=
  raws.foldl (fun position raw => position + (6 + raw.body.contents.length)) 2

theorem Counted.length_attributes (raws : Counted RawAttribute) :
    (raws.bytes RawAttribute.bytes).length = positionBehind raws.items := by
  have hpast : ∀ (items : List RawAttribute) (start : Nat),
      items.foldl (fun position raw => position + (6 + raw.body.contents.length)) start =
        start + (items.flatMap RawAttribute.bytes).length := by
    intro items
    induction items with
    | nil =>
      intro start
      rfl
    | cons raw items ih =>
      intro start
      rw [List.foldl_cons, ih, List.flatMap_cons, List.length_append, raw.length_bytes]
      omega
  unfold positionBehind Counted.bytes
  rw [hpast, List.length_append, length_twoBytes]

namespace Attribute

open Reader

variable {α σ : Type} {pool : ConstantPool}

/-! ### One frame -/

/-- Reads an attribute as its name and its whole body. -/
def frame (pool : ConstantPool) : Reader (String × Bytes) :=
  Attribute.read pool fun name => do
    let contents ← get
    pure (name, contents)

/-- To read an attribute is to read its frame, and then its body on its own. -/
theorem read_eq_frame (body : String → Reader α) :
    Attribute.read pool body = frame pool >>= fun framed =>
      liftM (ofBody framed.1 ((body framed.1).run framed.2)) := by
  unfold frame Attribute.read
  simp only [bind_assoc]
  rfl

theorem frame_reads : Reads (frame pool) RawAttribute.bytes fun raw framed =>
    pool.HoldsText raw.nameIndex.toNat framed.1 ∧
      framed.2 = raw.body.contents := by
  have hwhole : ReadsBody (fun name => do let contents ← get; pure (name, contents))
      fun name contents framed => framed = (name, contents) := by
    intro name contents framed
    constructor
    · rintro ⟨slack, h⟩
      exact (Prod.ext_iff.mp (Except.ok.inj h)).1.symm
    · rintro rfl
      exact ⟨contents, rfl⟩
  intro bs framed rest
  show Attribute.read pool _ bs = _ ↔ _
  rw [read_reads hwhole]
  apply exists_congr
  intro raw
  apply and_congr_right
  intro _
  constructor
  · rintro ⟨name, hname, rfl⟩
    exact ⟨hname, rfl⟩
  · rintro ⟨hname, hcontents⟩
    exact ⟨framed.1, hname, Prod.ext rfl hcontents⟩

/-- Where an attribute stands, the reader of its frame can only miss its name. -/
theorem frame_bytes_append (raw : RawAttribute) (rest : Bytes) :
    frame pool (raw.bytes ++ rest) =
      (pool.text raw.nameIndex.toNat).map fun name =>
        ((name, raw.body.contents), rest) := by
  have hindex : u2 (raw.bytes ++ rest) =
      .ok (raw.nameIndex.toNat, raw.body.bytes ++ rest) :=
    (u2_reads _ _ _).mpr ⟨raw.nameIndex, List.append_assoc _ _ _, rfl⟩
  have hlength : u4 (raw.body.bytes ++ rest) =
      .ok (raw.body.contents.length, raw.body.contents ++ rest) :=
    (u4_reads _ _ _).mpr ⟨_, List.append_assoc _ _ _, raw.body.toNat_length.symm⟩
  have hcontents : bytes raw.body.contents.length (raw.body.contents ++ rest) =
      .ok (raw.body.contents, rest) := bytes_eq_ok_iff.mpr ⟨rfl, rfl⟩
  unfold frame Attribute.read
  rw [run_bind, hindex]
  simp only [run_bind, hlength, run_lift]
  cases pool.text raw.nameIndex.toNat with
  | error fault => rfl
  | ok name =>
    simp only [Except.map, hcontents]
    rfl

/-! ### Visitors -/

/-- Whatever is shown attributes.  It gets the name and the body of an attribute, and reads as much
of the body as it likes and leaves the rest, or refuses it.  In both cases it may remember
something. -/
abbrev Visitor (σ : Type) := String → Bytes → σ → Except ParseError (Unit × Bytes) × σ

/-- The answer of a visitor to a body.  A body that ends too soon is blamed on its attribute. -/
def Visitor.answer (visitor : Visitor σ) (name : String) (contents : Bytes) (memory : σ) :
    Except ParseError Unit × σ :=
  (ofBody name (visitor name contents memory).1, (visitor name contents memory).2)

/-- Shows the next attribute to a visitor, and then stands behind it. -/
def visit (pool : ConstantPool) (visitor : Visitor σ) (bs : Bytes) (memory : σ) :
    Except ParseError Bytes × σ :=
  match frame pool bs with
  | .ok ((name, contents), rest) =>
    ((visitor.answer name contents memory).1.map fun _ => rest,
      (visitor.answer name contents memory).2)
  | .error fault => (.error fault, memory)

/-- Shows so many attributes to a visitor, as long as it takes them. -/
def visitTimes (pool : ConstantPool) (visitor : Visitor σ) :
    Nat → Bytes → σ → Except ParseError Bytes × σ
  | 0, bs, memory => (.ok bs, memory)
  | n + 1, bs, memory =>
    match visit pool visitor bs memory with
    | (.ok rest, memory) => visitTimes pool visitor n rest memory
    | (.error fault, memory) => (.error fault, memory)

/-- Reads the number of attributes and shows each of them to a visitor. -/
def visitAll (pool : ConstantPool) (visitor : Visitor σ) (bs : Bytes) (memory : σ) :
    Except ParseError Bytes × σ :=
  match u2 bs with
  | .ok (count, rest) => visitTimes pool visitor count rest memory
  | .error fault => (.error fault, memory)

/-! ### Reading as a visit -/

/-- The visitor that reads each body in the way of its name, and keeps what was read. -/
def Visitor.keeping (body : String → Reader α) : Visitor (List α) := fun name contents kept =>
  match body name contents with
  | .ok (value, slack) => (.ok ((), slack), kept ++ [value])
  | .error fault => (.error fault, kept)

/-- The outcome of a visit as that of a reader, which gives what is remembered. -/
def told : Except ParseError Bytes × σ → Except ParseError (σ × Bytes)
  | (.ok rest, memory) => .ok (memory, rest)
  | (.error fault, _) => .error fault

theorem told_visit_keeping (pool : ConstantPool) (body : String → Reader α) (bs : Bytes)
    (kept : List α) :
    told (visit pool (Visitor.keeping body) bs kept) =
      (Attribute.read pool body bs).map fun (value, rest) => (kept ++ [value], rest) := by
  rw [read_eq_frame, run_bind]
  unfold visit
  cases frame pool bs with
  | error fault => rfl
  | ok result =>
    obtain ⟨⟨name, contents⟩, rest⟩ := result
    simp only [Visitor.answer, Visitor.keeping, run_lift, StateT.run]
    cases body name contents with
    | ok result => rfl
    | error fault => cases fault <;> rfl

theorem told_visitTimes_keeping (body : String → Reader α) (n : Nat) (bs : Bytes)
    (kept : List α) :
    told (visitTimes pool (Visitor.keeping body) n bs kept) =
      (times (Attribute.read pool body) n bs).map fun (values, rest) =>
        (kept ++ values, rest) := by
  induction n generalizing bs kept with
  | zero => simp [visitTimes, told, Except.map]
  | succ n ih =>
    have hfirst := told_visit_keeping pool body bs kept
    simp only [visitTimes, times, run_bind]
    cases hvisit : visit pool (Visitor.keeping body) bs kept with
    | mk outcome memory =>
      rw [hvisit] at hfirst
      cases hread : Attribute.read pool body bs with
      | error fault =>
        rw [hread] at hfirst
        cases outcome with
        | ok rest => simp [told, Except.map] at hfirst
        | error fault => exact hfirst
      | ok result =>
        obtain ⟨value, rest⟩ := result
        rw [hread] at hfirst
        cases outcome with
        | error fault => simp [told, Except.map] at hfirst
        | ok rest' =>
          obtain ⟨rfl, rfl⟩ : memory = kept ++ [value] ∧ rest' = rest := by
            simpa [told, Except.map] using hfirst
          -- what was kept so far and the first value go in front of the other values
          simp only [ih]
          cases times (Attribute.read pool body) n rest' with
          | error fault => rfl
          | ok result => simp [Except.map]

/-- To read attributes is to show them to the visitor that keeps what is read. -/
theorem readAll_eq_visitAll (body : String → Reader α) (bs : Bytes) :
    readAll pool body bs = told (visitAll pool (Visitor.keeping body) bs []) := by
  unfold readAll visitAll
  rw [run_bind]
  cases u2 bs with
  | error fault => rfl
  | ok result =>
    obtain ⟨count, rest⟩ := result
    simp only [told_visitTimes_keeping]
    cases times (Attribute.read pool body) count rest <;> rfl

/-! ### A visit where attributes stand -/

/-- What a visitor says of an attribute, whose name is looked up for it. -/
def Visitor.take (visitor : Visitor σ) (pool : ConstantPool) (raw : RawAttribute) (memory : σ) :
    Except ParseError Unit × σ :=
  match pool.text raw.nameIndex.toNat with
  | .ok name => visitor.answer name raw.body.contents memory
  | .error fault => (.error fault, memory)

/-- What a visitor says of attributes, up to the first that it does not take. -/
def Visitor.takeAll (visitor : Visitor σ) (pool : ConstantPool) :
    List RawAttribute → σ → Except ParseError Unit × σ
  | [], memory => (.ok (), memory)
  | raw :: raws, memory =>
    match visitor.take pool raw memory with
    | (.ok (), memory) => visitor.takeAll pool raws memory
    | (.error fault, memory) => (.error fault, memory)

theorem visit_bytes_append (visitor : Visitor σ) (raw : RawAttribute) (rest : Bytes)
    (memory : σ) :
    visit pool visitor (raw.bytes ++ rest) memory =
      ((visitor.take pool raw memory).1.map fun _ => rest,
        (visitor.take pool raw memory).2) := by
  unfold visit Visitor.take
  rw [frame_bytes_append]
  cases pool.text raw.nameIndex.toNat <;> rfl

theorem visitTimes_bytes_append (visitor : Visitor σ) (raws : List RawAttribute) (rest : Bytes)
    (memory : σ) :
    visitTimes pool visitor raws.length (raws.flatMap RawAttribute.bytes ++ rest) memory =
      ((visitor.takeAll pool raws memory).1.map fun _ => rest,
        (visitor.takeAll pool raws memory).2) := by
  induction raws generalizing memory with
  | nil => rfl
  | cons raw raws ih =>
    rw [List.flatMap_cons, List.append_assoc]
    simp only [List.length_cons, visitTimes, visit_bytes_append, Visitor.takeAll]
    cases visitor.take pool raw memory with
    | mk outcome memory =>
      cases outcome with
      | error fault => rfl
      | ok value => exact ih memory

/-- A visitor is shown exactly the attributes that stand there, one after the other. -/
theorem visitAll_bytes_append (visitor : Visitor σ) (raws : Counted RawAttribute) (rest : Bytes)
    (memory : σ) :
    visitAll pool visitor (raws.bytes RawAttribute.bytes ++ rest) memory =
      ((visitor.takeAll pool raws.items memory).1.map fun _ => rest,
        (visitor.takeAll pool raws.items memory).2) := by
  have hcount : u2 (raws.bytes RawAttribute.bytes ++ rest) =
      .ok (raws.items.length, raws.items.flatMap RawAttribute.bytes ++ rest) :=
    (u2_reads _ _ _).mpr ⟨_, List.append_assoc _ _ _, raws.toNat_length.symm⟩
  unfold visitAll
  rw [hcount]
  exact visitTimes_bytes_append visitor raws.items rest memory

/-! ### Why a visit ends early -/

/-- The error for a refused body. -/
def blamedOn (name : String) : ParseError → ParseError
  | .unexpectedEnd => .shortAttribute name
  | fault => fault

theorem ofBody_error (name : String) (fault : ParseError) :
    ofBody name (.error fault : Except ParseError (α × Bytes)) = .error (blamedOn name fault) := by
  cases fault <;> rfl

/-- How a visitor is stopped at an attribute, with the error and what it remembers then. -/
inductive Stopped (pool : ConstantPool) (visitor : Visitor σ) (raw : RawAttribute) (memory : σ) :
    ParseError → σ → Prop
  /-- The index of the name denotes no text. -/
  | unnamed (nameless : ∀ name, ¬ pool.HoldsText raw.nameIndex.toNat name) :
      Stopped pool visitor raw memory (.badIndex raw.nameIndex.toNat) memory
  /-- The visitor refuses the body. -/
  | refused {name : String} {fault : ParseError} {memory' : σ}
      (named : pool.HoldsText raw.nameIndex.toNat name)
      (refuses : visitor name raw.body.contents memory = (.error fault, memory')) :
      Stopped pool visitor raw memory (blamedOn name fault) memory'

theorem stopped_of_take {visitor : Visitor σ} {raw : RawAttribute} {memory memory' : σ}
    {fault : ParseError} (h : visitor.take pool raw memory = (.error fault, memory')) :
    Stopped pool visitor raw memory fault memory' := by
  unfold Visitor.take at h
  cases htext : pool.text raw.nameIndex.toNat with
  | error missing =>
    obtain rfl := ConstantPool.text_eq_error htext
    rw [htext] at h
    obtain ⟨rfl, rfl⟩ : .badIndex raw.nameIndex.toNat = fault ∧ memory = memory' := by
      simpa using h
    apply Stopped.unnamed
    intro name hname
    rw [ConstantPool.text_eq_ok_iff.mpr hname] at htext
    cases htext
  | ok name =>
    rw [htext] at h
    cases hvisitor : visitor name raw.body.contents memory with
    | mk outcome remembered =>
      simp only [Visitor.answer, hvisitor, Prod.mk.injEq] at h
      obtain ⟨houtcome, rfl⟩ := h
      cases outcome with
      | ok result => simp [ofBody] at houtcome
      | error refusal =>
        rw [ofBody_error] at houtcome
        obtain rfl := Except.error.inj houtcome
        exact .refused (ConstantPool.text_eq_ok_iff.mp htext) hvisitor

/-- A visitor that does not take all attributes is stopped at one of them. -/
theorem exists_stopped_of_takeAll {visitor : Visitor σ} {raws : List RawAttribute}
    {memory memory' : σ} {fault : ParseError}
    (h : visitor.takeAll pool raws memory = (.error fault, memory')) :
    ∃ before raw behind between, raws = before ++ raw :: behind ∧
      visitor.takeAll pool before memory = (.ok (), between) ∧
      Stopped pool visitor raw between fault memory' := by
  induction raws generalizing memory with
  | nil => simp [Visitor.takeAll] at h
  | cons raw raws ih =>
    rw [Visitor.takeAll] at h
    cases htake : visitor.take pool raw memory with
    | mk outcome between =>
      rw [htake] at h
      cases outcome with
      | error refusal =>
        obtain ⟨rfl, rfl⟩ : refusal = fault ∧ between = memory' := by simpa using h
        exact ⟨[], raw, raws, memory, rfl, rfl, stopped_of_take htake⟩
      | ok value =>
        -- the attribute is one of those before the one that stops the visitor
        obtain ⟨before, stopper, behind, last, rfl, hbefore, hstopped⟩ := ih h
        refine ⟨raw :: before, stopper, behind, last, rfl, ?_, hstopped⟩
        rw [Visitor.takeAll, htake]
        exact hbefore

/-! ### What a visitor is shown -/

/-- The visitor that also remembers each name and body that it was shown, before it says anything
of them. -/
def Visitor.recorded (visitor : Visitor σ) : Visitor (σ × List (String × Bytes)) :=
  fun name contents memory =>
    ((visitor name contents memory.1).1,
      ((visitor name contents memory.1).2, memory.2 ++ [(name, contents)]))

/-- An attribute is shown by the name that its index denotes, and with all of its body. -/
def ShownAs (pool : ConstantPool) (raw : RawAttribute) (shown : String × Bytes) : Prop :=
  pool.HoldsText raw.nameIndex.toNat shown.1 ∧ shown.2 = raw.body.contents

/-- What was shown when at most `n` attributes of `bs` were visited with this outcome are the
attributes `raws`, with which `bs` begins. -/
structure Shown (pool : ConstantPool) (n : Nat) (bs : Bytes) (outcome : Except ParseError Bytes)
    (shown : List (String × Bytes)) (raws : List RawAttribute) (behind : Bytes) : Prop where
  /-- They stand one after the other and nothing stands before them. -/
  bytes_eq : bs = raws.flatMap RawAttribute.bytes ++ behind
  /-- There are no more of them than announced. -/
  length_le : raws.length ≤ n
  /-- Each was shown once, in order. -/
  shownAs : List.Forall₂ (ShownAs pool) raws shown
  /-- There are as many as announced if the visit came to its end, which is behind them. -/
  all_of_ok : ∀ rest, outcome = .ok rest → raws.length = n ∧ behind = rest

theorem shown_visitTimes (pool : ConstantPool) (visitor : Visitor σ) (n : Nat) (bs : Bytes)
    (memory : σ) (seen : List (String × Bytes)) :
    ∃ shown raws behind, visitTimes pool visitor.recorded n bs (memory, seen) =
        ((visitTimes pool visitor n bs memory).1,
          ((visitTimes pool visitor n bs memory).2, seen ++ shown)) ∧
      Shown pool n bs (visitTimes pool visitor n bs memory).1 shown raws behind := by
  induction n generalizing bs memory seen with
  | zero =>
    refine ⟨[], [], bs, by simp [visitTimes], rfl, Nat.le_refl 0, .nil, ?_⟩
    intro rest h
    exact ⟨rfl, Except.ok.inj h⟩
  | succ n ih =>
    cases hframe : frame pool bs with
    | error fault =>
      -- nothing is shown of an attribute without a frame
      refine ⟨[], [], bs, by simp [visitTimes, visit, hframe], rfl, Nat.zero_le _, .nil, ?_⟩
      intro rest h
      simp [visitTimes, visit, hframe] at h
    | ok result =>
      obtain ⟨⟨name, contents⟩, rest⟩ := result
      obtain ⟨raw, rfl, hshown⟩ := (frame_reads _ _ _).mp hframe
      simp only [visitTimes, visit, hframe, Visitor.answer, Visitor.recorded]
      cases hanswer : ofBody name (visitor name contents memory).1 with
      | error fault =>
        refine ⟨[(name, contents)], [raw], rest, rfl, by simp, by simp, .cons hshown .nil, ?_⟩
        intro rest' h
        simp [Except.map] at h
      | ok value =>
        obtain ⟨shown, raws, behind, hvisit, hbytes, hlength, hall, hend⟩ :=
          ih rest (visitor name contents memory).2 (seen ++ [(name, contents)])
        refine ⟨(name, contents) :: shown, raw :: raws, behind, ?_, ?_, ?_, .cons hshown hall, ?_⟩
        · simpa [Except.map] using hvisit
        · simp [hbytes]
        · simpa using hlength
        · intro rest' h
          obtain ⟨hn, hbehind⟩ := hend rest' h
          exact ⟨by simp [hn], hbehind⟩

/-- A visitor is shown the first attributes of those that are announced, as far as they are whole
and it takes them. -/
theorem shown_visitAll (pool : ConstantPool) (visitor : Visitor σ) (bs : Bytes) (memory : σ) :
    ∃ shown, visitAll pool visitor.recorded bs (memory, []) =
        ((visitAll pool visitor bs memory).1, ((visitAll pool visitor bs memory).2, shown)) ∧
      (bs.length < 2 ∧ shown = [] ∨
        ∃ (count : UInt16) (announced : Bytes) (raws : List RawAttribute) (behind : Bytes),
          bs = twoBytes count ++ announced ∧
            Shown pool count.toNat announced (visitAll pool visitor bs memory).1 shown raws
              behind) := by
  unfold visitAll
  cases hcount : u2 bs with
  | error fault =>
    exact ⟨[], rfl, Or.inl ⟨(u2_eq_error_iff.mp hcount).1, rfl⟩⟩
  | ok result =>
    obtain ⟨count, announced⟩ := result
    obtain ⟨count, rfl, rfl⟩ := (u2_reads _ _ _).mp hcount
    obtain ⟨shown, raws, behind, hvisit, hshown⟩ :=
      shown_visitTimes pool visitor count.toNat announced memory []
    exact ⟨shown, hvisit, Or.inr ⟨count, announced, raws, behind, rfl, hshown⟩⟩

/-! ### Both ways through attributes -/

theorem bytes_of_visitAll {visitor : Visitor σ} {bs rest : Bytes} {memory memory' : σ}
    (h : visitAll pool visitor bs memory = (.ok rest, memory')) :
    ∃ raws : Counted RawAttribute, bs = raws.bytes RawAttribute.bytes ++ rest := by
  obtain ⟨shown, -, hshown⟩ := shown_visitAll pool visitor bs memory
  rcases hshown with ⟨hshort, -⟩ | ⟨count, _, raws, behind, rfl, rfl, -, -, hend⟩
  · -- two bytes are there, for their number was read
    unfold visitAll at h
    rw [u2_eq_error_iff.mpr ⟨hshort, rfl⟩] at h
    cases h
  · obtain ⟨hlength, rfl⟩ := hend rest (by rw [h])
    obtain ⟨counted, rfl, hcounted⟩ := Counted.exists_bytes_eq hlength RawAttribute.bytes
    exact ⟨counted, by rw [hcounted, List.append_assoc]⟩

/-- **Both ways through attributes go by the same frames.**

Where `bs` is what follows the position of a reader: a visit that comes to its end stands where
skipping stands, behind the count and, for each attribute, six bytes and the announced length.
Where skipping succeeds, a visit ends early only at an attribute without a name or at a body that
the visitor refuses.  In any visit, the bodies that are shown are those of the announced
attributes, in order and each of them whole.  And to read attributes is to visit them. -/
theorem agree_on_frames (pool : ConstantPool) (visitor : Visitor σ) (bs : Bytes) (memory : σ) :
    (∀ rest memory', visitAll pool visitor bs memory = (.ok rest, memory') →
      skipAll bs = .ok ((), rest) ∧
        ∃ raws : Counted RawAttribute, bs = raws.bytes RawAttribute.bytes ++ rest ∧
          rest = bs.drop (positionBehind raws.items)) ∧
    (∀ rest fault memory', skipAll bs = .ok ((), rest) →
      visitAll pool visitor bs memory = (.error fault, memory') →
      ∃ raws : Counted RawAttribute, bs = raws.bytes RawAttribute.bytes ++ rest ∧
        ∃ before raw behind between, raws.items = before ++ raw :: behind ∧
          visitor.takeAll pool before memory = (.ok (), between) ∧
          Stopped pool visitor raw between fault memory') ∧
    (∃ shown, visitAll pool visitor.recorded bs (memory, []) =
        ((visitAll pool visitor bs memory).1, ((visitAll pool visitor bs memory).2, shown)) ∧
      (bs.length < 2 ∧ shown = [] ∨
        ∃ (count : UInt16) (announced : Bytes) (raws : List RawAttribute) (behind : Bytes),
          bs = twoBytes count ++ announced ∧
            Shown pool count.toNat announced (visitAll pool visitor bs memory).1 shown raws
              behind)) ∧
    (∀ (α : Type) (body : String → Reader α),
      readAll pool body bs = told (visitAll pool (Visitor.keeping body) bs [])) := by
  refine ⟨?_, ?_, shown_visitAll pool visitor bs memory, fun α body => readAll_eq_visitAll body bs⟩
  · intro rest memory' h
    obtain ⟨raws, rfl⟩ := bytes_of_visitAll h
    refine ⟨(skipAll_reads _ _ _).mpr ⟨raws, rfl, trivial⟩, raws, rfl, ?_⟩
    rw [← raws.length_attributes, List.drop_left]
  · intro rest fault memory' hskip h
    obtain ⟨raws, rfl, -⟩ := (skipAll_reads _ _ _).mp hskip
    rw [visitAll_bytes_append] at h
    -- where all attributes stand, the visit fails where the visitor does not take one
    have htakeAll : visitor.takeAll pool raws.items memory = (.error fault, memory') := by
      cases htake : visitor.takeAll pool raws.items memory with
      | mk outcome remembered =>
        rw [htake] at h
        cases outcome with
        | ok value => simp [Except.map] at h
        | error refusal => simpa [Except.map] using h
    exact ⟨raws, rfl, exists_stopped_of_takeAll htakeAll⟩

/-- A constant pool with one name. -/
def onePool : ConstantPool := ⟨#[none, some (.text "A")]⟩

/-- A visitor that reads the first byte of each body and counts the bodies that have one. -/
def firstByte : Visitor Nat := fun _ contents count =>
  match contents with
  | [] => (.error .unexpectedEnd, count)
  | _ :: slack => (.ok ((), slack), count + 1)

/-- Two attributes, of which the first has a body of two bytes, and a byte behind them. -/
def twoAttributes (second : Bytes) : Bytes :=
  [0, 2, 0, 1, 0, 0, 0, 2, 5, 6, 0, 1, 0, 0, 0] ++ second ++ [9]

/-- A visitor that leaves a byte of the first body stands behind both attributes all the same, and
one that refuses the second body, which is empty, is stopped by nothing else. -/
theorem agree_on_frames_firstByte :
    visitAll onePool firstByte (twoAttributes [1, 7]) 0 = (.ok [9], 2) ∧
      skipAll (twoAttributes [1, 7]) = .ok ((), [9]) ∧
      skipAll (twoAttributes [0]) = .ok ((), [9]) ∧
      visitAll onePool firstByte (twoAttributes [0]) 0 = (.error (.shortAttribute "A"), 1) ∧
      ∃ raws : Counted RawAttribute,
        twoAttributes [0] = raws.bytes RawAttribute.bytes ++ [9] ∧
        ∃ before raw behind between, raws.items = before ++ raw :: behind ∧
          firstByte.takeAll onePool before 0 = (.ok (), between) ∧
          Stopped onePool firstByte raw between (.shortAttribute "A") 1 := by
  have hends : visitAll onePool firstByte (twoAttributes [1, 7]) 0 = (.ok [9], 2) := by
    decide +kernel
  have hskips : skipAll (twoAttributes [0]) = .ok ((), [9]) := by decide +kernel
  have hstops : visitAll onePool firstByte (twoAttributes [0]) 0 =
      (.error (.shortAttribute "A"), 1) := by decide +kernel
  exact ⟨hends, ((agree_on_frames onePool firstByte _ 0).1 _ _ hends).1, hskips, hstops,
    (agree_on_frames onePool firstByte _ 0).2.1 _ _ _ hskips hstops⟩

end Attribute
end ClosureSpan
