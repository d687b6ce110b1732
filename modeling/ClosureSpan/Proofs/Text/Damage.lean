import ClosureSpan.Proofs.Text.Canonical

/-!
# Damage is local

Reading looks ahead in two places: a lead byte wants up to three continuation bytes after it, and a
high surrogate wants a low one.  At the end of a damaged byte string either may be left wanting.
What follows can satisfy it only with a continuation byte or with a low surrogate, and no written
text begins with one of them.

## Main definitions

* `BeginsText bs` — the bytes give nothing to what is left wanting before them.

## Main results

* `Utf16.chars_append` — units are read in two parts, unless a low surrogate begins the second.
* `unitsFrom_append` — forms are read in two parts, unless a continuation byte begins the second.
* `decode_append` — **what begins like a text is read on its own, whatever stands before it.**
* `damage_is_local` — **a written text is read as it is, whatever stands around it.**
-/

namespace ClosureSpan

/-! ### Code units -/

namespace Utf16

theorem isLow_eq_false {u : Nat} (h : u < 0xDC00 ∨ 0xDFFF < u) : isLow u = false := by
  unfold isLow
  simp only [Bool.and_eq_false_iff, decide_eq_false_iff_not]
  omega

theorem chars_cons_cons (u v : Nat) (rest : List Nat) : chars (u :: v :: rest) =
    if isHigh u && isLow v then joined u v :: chars rest else lone u :: chars (v :: rest) := rfl

/-- Units are read in two parts, unless a low surrogate begins the second. -/
theorem chars_append (us : List Nat) {v : Nat} (hv : isLow v = false) (vs : List Nat) :
    chars (us ++ v :: vs) = chars us ++ chars (v :: vs) := by
  -- the induction is on the reader: a pair is taken whole, so the seam is never inside one
  induction us using chars.induct with
  | case1 => rfl
  | case2 u =>
    rw [List.singleton_append, chars_cons_cons, hv, Bool.and_false, if_neg Bool.false_ne_true]
    rfl
  | case3 u w rest hpair ih =>
    rw [List.cons_append, List.cons_append, chars_cons_cons, chars_cons_cons, if_pos hpair,
      if_pos hpair, ih, List.cons_append]
  | case4 u w rest hpair ih =>
    rw [List.cons_append, List.cons_append, chars_cons_cons, chars_cons_cons, if_neg hpair,
      if_neg hpair, ← List.cons_append, ih, List.cons_append]

/-- No character begins with a low surrogate. -/
theorem units_head (c : Char) : ∃ u us, units c = u :: us ∧ isLow u = false := by
  have hscalar := toNat_not_surrogate c
  unfold units
  split
  next => exact ⟨_, _, rfl, isLow_eq_false (by omega)⟩
  next => exact ⟨_, _, rfl, isLow_eq_false (by omega)⟩

end Utf16

namespace ModifiedUtf8

/-! ### Forms -/

theorem payload_eq_none {b : UInt8} (hb : ¬ IsContinuation b) (n lead : Nat) (rest : Bytes) :
    payload (n + 1) lead (b :: rest) = none := by
  unfold IsContinuation at hb
  rw [payload, if_neg (by omega)]

/-- A form takes no byte that is not a continuation byte, nor anything behind one. -/
theorem payload_append (n lead : Nat) (bs : Bytes) {b : UInt8} (hb : ¬ IsContinuation b)
    (rest : Bytes) : payload n lead (bs ++ b :: rest) = payload n lead bs := by
  induction bs generalizing n lead with
  | nil =>
    cases n with
    | zero => rfl
    | succ n => exact payload_eq_none hb n lead rest
  | cons c bs ih =>
    cases n with
    | zero => rfl
    | succ n => rw [List.cons_append, payload, payload, ih]

theorem le_length_of_payload {n lead u : Nat} {bs : Bytes} (h : payload n lead bs = some u) :
    n ≤ bs.length := by
  induction bs generalizing n lead with
  | nil =>
    cases n with
    | zero => exact Nat.le_refl 0
    | succ n => cases h
  | cons c bs ih =>
    cases n with
    | zero => exact Nat.zero_le _
    | succ n =>
      rw [payload] at h
      split at h
      next => exact Nat.succ_le_succ (ih h)
      next => cases h

/-- A form does not see what stands behind a byte that is not a continuation byte. -/
theorem Form.read_append (c : UInt8) (bs : Bytes) {b : UInt8} (hb : ¬ IsContinuation b)
    (rest : Bytes) : Form.read c (bs ++ b :: rest) = Form.read c bs := by
  unfold Form.read
  simp only [payload_append _ _ bs hb]

/-- A form takes only bytes that are there. -/
theorem Form.extra_read_le (c : UInt8) (bs : Bytes) : (Form.read c bs).extra ≤ bs.length := by
  have hdamaged : damaged.extra ≤ bs.length := Nat.zero_le _
  unfold Form.read
  dsimp only
  split
  next => exact Nat.zero_le _
  split
  next => exact hdamaged
  split
  next =>
    split
    next hform => exact le_length_of_payload hform
    next => exact hdamaged
  split
  next =>
    split
    next hform => exact le_length_of_payload hform
    next => exact hdamaged
  split
  next =>
    split
    next hform =>
      split
      next => exact le_length_of_payload hform
      next => exact hdamaged
    next => exact hdamaged
  next => exact hdamaged

/-- Forms are read in two parts, unless a continuation byte begins the second. -/
theorem unitsFrom_append {skip : Nat} {bs : Bytes} (hskip : skip ≤ bs.length) {b : UInt8}
    (hb : ¬ IsContinuation b) (rest : Bytes) :
    unitsFrom skip (bs ++ b :: rest) = unitsFrom skip bs ++ unitsFrom 0 (b :: rest) := by
  induction bs generalizing skip with
  | nil =>
    obtain rfl : skip = 0 := Nat.le_zero.mp hskip
    rfl
  | cons c bs ih =>
    cases skip with
    | zero =>
      rw [List.cons_append, unitsFrom_zero_cons, unitsFrom_zero_cons, Form.read_append c bs hb,
        ih (Form.extra_read_le c bs), List.append_assoc]
    | succ skip =>
      rw [List.cons_append, unitsFrom_succ_cons, unitsFrom_succ_cons]
      exact ih (Nat.le_of_succ_le_succ hskip)

/-! ### Seams -/

/-- The bytes begin neither with a continuation byte nor with a low surrogate, so they give nothing
to what is left wanting before them. -/
def BeginsText (bs : Bytes) : Prop :=
  (∃ b rest, bs = b :: rest ∧ ¬ IsContinuation b) ∧
    ∃ u us, unitsFrom 0 bs = u :: us ∧ Utf16.isLow u = false

/-- **What begins like a text is read on its own, whatever stands before it.** -/
theorem decode_append (before : Bytes) {bs : Bytes} (h : BeginsText bs) :
    decode (before ++ bs) = decode before ++ decode bs := by
  obtain ⟨⟨b, rest, rfl, hb⟩, u, us, hunits, hu⟩ := h
  have hseam := unitsFrom_append (Nat.zero_le before.length) hb rest
  rw [decode, decode, decode, hseam, hunits, Utf16.chars_append _ hu, String.ofList_append]

/-- A written character begins with a lead byte. -/
theorem encodeChar_not_continuation (c : Char) :
    ∃ b bs, encodeChar c = b :: bs ∧ ¬ IsContinuation b := by
  have hform := canonicalForm_encodeChar c
  generalize encodeChar c = form at hform
  unfold IsContinuation
  cases hform with
  | ascii hb => exact ⟨_, _, rfl, by omega⟩
  | nul => exact ⟨_, _, rfl, by decide⟩
  | two hb _ => exact ⟨_, _, rfl, by omega⟩
  | three hb _ _ _ _ => exact ⟨_, _, rfl, by omega⟩
  | six _ _ _ _ => exact ⟨_, _, rfl, by decide⟩

theorem beginsText_encodeChar_append (c : Char) (after : Bytes) :
    BeginsText (encodeChar c ++ after) := by
  obtain ⟨b, bs, hbytes, hb⟩ := encodeChar_not_continuation c
  obtain ⟨u, us, hunits, hu⟩ := Utf16.units_head c
  refine ⟨⟨b, bs ++ after, ?_, hb⟩, u, us ++ unitsFrom 0 after, ?_, hu⟩
  · rw [hbytes, List.cons_append]
  · rw [unitsFrom_encodeChar_append, hunits, List.cons_append]

/-- What was written is read as it is, whatever follows. -/
theorem decode_encode_append (s : String) (after : Bytes) :
    decode (encode s ++ after) = s ++ decode after := by
  rw [decode, decode, encode, unitsFrom_flatMap_append unitsFrom_encodeChar_append,
    Utf16.chars_flatMap_units_append, String.ofList_append, String.ofList_toList]

/-- **Damage is local.**  A written text is read as it is between any two byte strings, and each of
these is read as it is on its own: what is cut off in front of the text takes nothing of it, and
what is cut off behind it changes nothing of it. -/
theorem damage_is_local (before after : Bytes) {s : String} (hs : s ≠ "") :
    decode (before ++ encode s ++ after) = decode before ++ s ++ decode after := by
  have hbegins : BeginsText (encode s ++ after) := by
    obtain ⟨c, cs, hchars⟩ := List.exists_cons_of_ne_nil (mt String.toList_eq_nil_iff.mp hs)
    rw [encode, hchars, List.flatMap_cons, List.append_assoc]
    exact beginsText_encodeChar_append c _
  rw [List.append_assoc, decode_append before hbegins, decode_encode_append, String.append_assoc]

/-- Half a pair and a form that is cut off stand before a supplementary character, and the other
half of the pair behind it. -/
theorem damage_is_local_supplementary : "😀" ≠ "" ∧
    decode ([0xED, 0xA0, 0xBD, 0xF0, 0x9F] ++ encode "😀" ++ [0xED, 0xB8, 0x80]) =
      "\uFFFD\uFFFD\uFFFD😀\uFFFD" :=
  ⟨by decide, (damage_is_local _ _ (by decide)).trans (by decide +kernel)⟩

/-- With no text in between, the two halves of a pair are read as one character. -/
example : decode ([0xED, 0xA0, 0xBD] ++ encode "" ++ [0xED, 0xB8, 0x80]) = "😀" := by
  decide +kernel

end ModifiedUtf8
end ClosureSpan
