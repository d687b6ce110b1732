import ClosureSpan.Span

/-!
# Reading back what was written

A text that was written in modified or in standard UTF-8 is read back as it was.  The two forms
differ only in NUL and in supplementary characters, and a test for an ASCII prefix cannot tell them
apart.

## Main results

* `ModifiedUtf8.decode_encode` — **modified UTF-8 is read back.**
* `ModifiedUtf8.decode_utf8` — so is standard UTF-8.
* `ModifiedUtf8.encode_eq_utf8` — texts without NUL and supplementary characters have one form.
* `isInlineMarker_encode` — the marker is found in either form of a name.
-/

namespace ClosureSpan

/-! ### Code units -/

namespace Utf16

/-- No character is a surrogate. -/
theorem toNat_not_surrogate (c : Char) :
    (c.toNat < 0xD800 ∨ 0xDFFF < c.toNat) ∧ c.toNat < 0x110000 := by
  have hvalid : c.toNat < 0xD800 ∨ 0xDFFF < c.toNat ∧ c.toNat < 0x110000 := c.valid
  omega

theorem isHigh_eq_false {u : Nat} (h : u < 0xD800 ∨ 0xDFFF < u) : isHigh u = false := by
  unfold isHigh
  simp only [Bool.and_eq_false_iff, decide_eq_false_iff_not]
  omega

theorem lone_toNat (c : Char) : lone c.toNat = c := by
  have hlow : isLow c.toNat = false := by
    have := toNat_not_surrogate c
    unfold isLow
    simp only [Bool.and_eq_false_iff, decide_eq_false_iff_not]
    omega
  rw [lone, isHigh_eq_false (toNat_not_surrogate c).1, hlow, Char.ofNat_toNat]
  rfl

theorem chars_cons_of_not_high {u : Nat} (h : isHigh u = false) (us : List Nat) :
    chars (u :: us) = lone u :: chars us := by
  cases us with
  | nil => rfl
  | cons v rest => rw [chars, h, Bool.false_and, if_neg Bool.false_ne_true]

/-- The units of a character are read as the character, whatever follows them. -/
theorem chars_units_append (c : Char) (us : List Nat) : chars (units c ++ us) = c :: chars us := by
  have hbound := (toNat_not_surrogate c).2
  unfold units
  split
  next =>
    rw [List.singleton_append, chars_cons_of_not_high (isHigh_eq_false (toNat_not_surrogate c).1),
      lone_toNat]
  next h =>
    have hhigh : isHigh (0xD800 + (c.toNat - 0x10000) / 0x400) = true := by
      unfold isHigh
      simp only [Bool.and_eq_true, decide_eq_true_eq]
      omega
    have hlow : isLow (0xDC00 + (c.toNat - 0x10000) % 0x400) = true := by
      unfold isLow
      simp only [Bool.and_eq_true, decide_eq_true_eq]
      omega
    have hjoined : joined (0xD800 + (c.toNat - 0x10000) / 0x400)
        (0xDC00 + (c.toNat - 0x10000) % 0x400) = c := by
      have hsum : 0x10000 + (0xD800 + (c.toNat - 0x10000) / 0x400 - 0xD800) * 0x400 +
          (0xDC00 + (c.toNat - 0x10000) % 0x400 - 0xDC00) = c.toNat := by omega
      rw [joined, hsum, Char.ofNat_toNat]
    rw [List.cons_append, List.singleton_append, chars, hhigh, hlow, hjoined]
    rfl

theorem chars_flatMap_units_append (cs : List Char) (us : List Nat) :
    chars (cs.flatMap units ++ us) = cs ++ chars us := by
  induction cs with
  | nil => rfl
  | cons c cs ih =>
    rw [List.flatMap_cons, List.append_assoc, chars_units_append, ih, List.cons_append]

theorem chars_flatMap_units (cs : List Char) : chars (cs.flatMap units) = cs := by
  have hchars := chars_flatMap_units_append cs []
  rwa [List.append_nil, chars, List.append_nil] at hchars

end Utf16

namespace ModifiedUtf8

/-! ### Forms -/

theorem toNat_byte {n : Nat} (h : n < 0x100) : (UInt8.ofNat n).toNat = n :=
  UInt8.toNat_ofNat_of_lt' h

/-- A continuation byte adds six bits. -/
theorem payload_continuation (n lead : Nat) {x : Nat} (hx : x < 0x40) (rest : Bytes) :
    payload (n + 1) lead (UInt8.ofNat (0x80 + x) :: rest) = payload n (lead * 0x40 + x) rest := by
  have hbyte : (UInt8.ofNat (0x80 + x)).toNat = 0x80 + x :=
    toNat_byte (by omega)
  rw [payload, hbyte, if_pos (by omega)]
  congr 1
  omega

theorem payload_zero (lead : Nat) (rest : Bytes) : payload 0 lead rest = some lead := by
  cases rest <;> rfl

theorem read_ascii {x : Nat} (hx : x < 0x80) (rest : Bytes) :
    Form.read (UInt8.ofNat x) rest = ⟨[x], 0⟩ := by
  have hbyte : (UInt8.ofNat x).toNat = x :=
    toNat_byte (by omega)
  unfold Form.read
  simp only [hbyte]
  rw [if_pos hx]

theorem read_two {x : Nat} (hx : x < 0x20) {rest : Bytes} {u : Nat}
    (hu : payload 1 x rest = some u) : Form.read (UInt8.ofNat (0xC0 + x)) rest = ⟨[u], 1⟩ := by
  have hbyte : (UInt8.ofNat (0xC0 + x)).toNat = 0xC0 + x :=
    toNat_byte (by omega)
  unfold Form.read
  simp only [hbyte]
  rw [if_neg (by omega), if_neg (by omega), if_pos (by omega),
    show (0xC0 + x) % 0x20 = x by omega, hu]

theorem read_three {x : Nat} (hx : x < 0x10) {rest : Bytes} {u : Nat}
    (hu : payload 2 x rest = some u) : Form.read (UInt8.ofNat (0xE0 + x)) rest = ⟨[u], 2⟩ := by
  have hbyte : (UInt8.ofNat (0xE0 + x)).toNat = 0xE0 + x :=
    toNat_byte (by omega)
  unfold Form.read
  simp only [hbyte]
  rw [if_neg (by omega), if_neg (by omega), if_neg (by omega), if_pos (by omega),
    show (0xE0 + x) % 0x10 = x by omega, hu]

theorem read_four {x : Nat} (hx : x < 8) {rest : Bytes} {c : Char}
    (hu : payload 3 x rest = some c.toNat) :
    Form.read (UInt8.ofNat (0xF0 + x)) rest = ⟨Utf16.units c, 3⟩ := by
  have hbyte : (UInt8.ofNat (0xF0 + x)).toNat = 0xF0 + x :=
    toNat_byte (by omega)
  have hvalid : c.toNat.isValidChar := c.valid
  unfold Form.read
  simp only [hbyte]
  rw [if_neg (by omega), if_neg (by omega), if_neg (by omega), if_neg (by omega),
    if_pos (by omega), show (0xF0 + x) % 8 = x by omega, hu]
  simp only
  rw [if_pos hvalid, Char.ofNat_toNat]

/-- A unit that was written is read, whatever follows it. -/
theorem unitsFrom_encodeUnit_append {u : Nat} (hu : u < 0x10000) (rest : Bytes) :
    unitsFrom 0 (encodeUnit u ++ rest) = u :: unitsFrom 0 rest := by
  unfold encodeUnit
  split
  next h =>
    have hform : payload 1 (u / 0x40) (UInt8.ofNat (0x80 + u % 0x40) :: rest) = some u := by
      rw [payload_continuation _ _ (by omega), payload_zero]
      congr 1
      omega
    rw [List.cons_append, List.singleton_append, unitsFrom_zero_cons, read_two (by omega) hform]
    rfl
  next h =>
    have hform : payload 2 (u / 0x1000) (UInt8.ofNat (0x80 + u / 0x40 % 0x40) ::
        UInt8.ofNat (0x80 + u % 0x40) :: rest) = some u := by
      rw [payload_continuation _ _ (by omega), payload_continuation _ _ (by omega), payload_zero]
      congr 1
      omega
    rw [List.cons_append, List.cons_append, List.singleton_append, unitsFrom_zero_cons,
      read_three (by omega) hform]
    rfl

theorem unitsFrom_flatMap_encodeUnit {us : List Nat} (h : ∀ u ∈ us, u < 0x10000) (rest : Bytes) :
    unitsFrom 0 (us.flatMap encodeUnit ++ rest) = us ++ unitsFrom 0 rest := by
  induction us with
  | nil => rfl
  | cons u us ih =>
    rw [List.flatMap_cons, List.append_assoc, unitsFrom_encodeUnit_append (h u List.mem_cons_self),
      ih fun v hv => h v (List.mem_cons_of_mem u hv)]
    rfl

theorem unitsFrom_ascii_append {x : Nat} (hx : x < 0x80) (rest : Bytes) :
    unitsFrom 0 ([UInt8.ofNat x] ++ rest) = x :: unitsFrom 0 rest := by
  rw [List.singleton_append, unitsFrom_zero_cons, read_ascii hx]
  rfl

/-! ### Modified UTF-8 -/

theorem units_lt (c : Char) : ∀ u ∈ Utf16.units c, u < 0x10000 := by
  have hbound := (Utf16.toNat_not_surrogate c).2
  intro u hu
  unfold Utf16.units at hu
  split at hu
  next => simp only [List.mem_singleton] at hu; omega
  next => simp only [List.mem_cons, List.not_mem_nil, or_false] at hu; omega

theorem units_of_lt {c : Char} (h : c.toNat < 0x10000) : Utf16.units c = [c.toNat] := if_pos h

theorem unitsFrom_encodeChar_append (c : Char) (rest : Bytes) :
    unitsFrom 0 (encodeChar c ++ rest) = Utf16.units c ++ unitsFrom 0 rest := by
  unfold encodeChar
  split
  next h =>
    rw [unitsFrom_ascii_append h.2, units_of_lt (by omega)]
    rfl
  next => exact unitsFrom_flatMap_encodeUnit (units_lt c) rest

theorem unitsFrom_flatMap_append {write : Char → Bytes}
    (h : ∀ c rest, unitsFrom 0 (write c ++ rest) = Utf16.units c ++ unitsFrom 0 rest)
    (cs : List Char) (rest : Bytes) :
    unitsFrom 0 (cs.flatMap write ++ rest) = cs.flatMap Utf16.units ++ unitsFrom 0 rest := by
  induction cs with
  | nil => rfl
  | cons c cs ih =>
    rw [List.flatMap_cons, List.append_assoc, h, ih, List.flatMap_cons, List.append_assoc]

theorem unitsFrom_flatMap {write : Char → Bytes}
    (h : ∀ c rest, unitsFrom 0 (write c ++ rest) = Utf16.units c ++ unitsFrom 0 rest)
    (cs : List Char) : unitsFrom 0 (cs.flatMap write) = cs.flatMap Utf16.units := by
  have hunits := unitsFrom_flatMap_append h cs []
  rwa [unitsFrom_nil, List.append_nil, List.append_nil] at hunits

/-- **Modified UTF-8 is read back.** -/
theorem decode_encode (s : String) : decode (encode s) = s := by
  rw [decode, encode, unitsFrom_flatMap unitsFrom_encodeChar_append, Utf16.chars_flatMap_units,
    String.ofList_toList]

theorem encode_injective {s t : String} (h : encode s = encode t) : s = t := by
  rw [← decode_encode s, h, decode_encode]

/-! ### Standard UTF-8 -/

theorem utf8EncodeChar_eq (c : Char) : String.utf8EncodeChar c =
    if c.toNat ≤ 0x7F then [UInt8.ofNat c.toNat]
    else if c.toNat ≤ 0x7FF then
      [UInt8.ofNat (c.toNat / 0x40 % 0x20 + 0xC0), UInt8.ofNat (c.toNat % 0x40 + 0x80)]
    else if c.toNat ≤ 0xFFFF then
      [UInt8.ofNat (c.toNat / 0x1000 % 0x10 + 0xE0), UInt8.ofNat (c.toNat / 0x40 % 0x40 + 0x80),
        UInt8.ofNat (c.toNat % 0x40 + 0x80)]
    else
      [UInt8.ofNat (c.toNat / 0x40000 % 8 + 0xF0), UInt8.ofNat (c.toNat / 0x1000 % 0x40 + 0x80),
        UInt8.ofNat (c.toNat / 0x40 % 0x40 + 0x80), UInt8.ofNat (c.toNat % 0x40 + 0x80)] := rfl

theorem utf8EncodeChar_of_ascii {c : Char} (h : c.toNat < 0x80) :
    String.utf8EncodeChar c = [UInt8.ofNat c.toNat] := by
  rw [utf8EncodeChar_eq, if_pos (by omega)]

/-- Standard UTF-8 writes the unit of a character like modified UTF-8. -/
theorem utf8EncodeChar_of_unit {c : Char} (hlow : 0x80 ≤ c.toNat) (hhigh : c.toNat < 0x10000) :
    String.utf8EncodeChar c = encodeUnit c.toNat := by
  rw [utf8EncodeChar_eq, if_neg (by omega)]
  unfold encodeUnit
  rcases Nat.lt_or_ge c.toNat 0x800 with h | h
  · rw [if_pos (by omega), if_pos h, Nat.mod_eq_of_lt (by omega), Nat.add_comm 0xC0,
      Nat.add_comm 0x80]
  · rw [if_neg (by omega), if_pos (by omega), if_neg (by omega), Nat.mod_eq_of_lt (by omega),
      Nat.add_comm 0xE0, Nat.add_comm 0x80, Nat.add_comm 0x80]

theorem utf8EncodeChar_of_supplementary {c : Char} (h : 0x10000 ≤ c.toNat) :
    String.utf8EncodeChar c =
      [UInt8.ofNat (0xF0 + c.toNat / 0x40000), UInt8.ofNat (0x80 + c.toNat / 0x1000 % 0x40),
        UInt8.ofNat (0x80 + c.toNat / 0x40 % 0x40), UInt8.ofNat (0x80 + c.toNat % 0x40)] := by
  have hbound := (Utf16.toNat_not_surrogate c).2
  have hlead : c.toNat / 0x40000 % 8 = c.toNat / 0x40000 := Nat.mod_eq_of_lt (by omega)
  rw [utf8EncodeChar_eq, if_neg (by omega), if_neg (by omega), if_neg (by omega), hlead,
    Nat.add_comm 0xF0, Nat.add_comm 0x80, Nat.add_comm 0x80, Nat.add_comm 0x80]

theorem unitsFrom_utf8EncodeChar_append (c : Char) (rest : Bytes) :
    unitsFrom 0 (String.utf8EncodeChar c ++ rest) = Utf16.units c ++ unitsFrom 0 rest := by
  have hbound := (Utf16.toNat_not_surrogate c).2
  rcases Nat.lt_or_ge c.toNat 0x80 with hascii | hlow
  · rw [utf8EncodeChar_of_ascii hascii, unitsFrom_ascii_append hascii, units_of_lt (by omega)]
    rfl
  rcases Nat.lt_or_ge c.toNat 0x10000 with hhigh | hsupplementary
  · rw [utf8EncodeChar_of_unit hlow hhigh, unitsFrom_encodeUnit_append hhigh, units_of_lt hhigh]
    rfl
  · have hform : payload 3 (c.toNat / 0x40000) (UInt8.ofNat (0x80 + c.toNat / 0x1000 % 0x40) ::
        UInt8.ofNat (0x80 + c.toNat / 0x40 % 0x40) :: UInt8.ofNat (0x80 + c.toNat % 0x40) :: rest)
          = some c.toNat := by
      rw [payload_continuation _ _ (by omega), payload_continuation _ _ (by omega),
        payload_continuation _ _ (by omega), payload_zero]
      congr 1
      omega
    rw [utf8EncodeChar_of_supplementary hsupplementary]
    simp only [List.cons_append, List.nil_append]
    rw [unitsFrom_zero_cons, read_four (by omega) hform]
    rfl

/-- Standard UTF-8 is read back as well. -/
theorem decode_utf8 (s : String) : decode (utf8 s) = s := by
  rw [decode, utf8, unitsFrom_flatMap unitsFrom_utf8EncodeChar_append, Utf16.chars_flatMap_units,
    String.ofList_toList]

/-! ### The two forms of a text -/

/-- A character that both forms write with the same bytes. -/
def Shared (c : Char) : Prop := 0 < c.toNat ∧ c.toNat < 0x10000

theorem encodeChar_of_ascii {c : Char} (hpos : 0 < c.toNat) (h : c.toNat < 0x80) :
    encodeChar c = [UInt8.ofNat c.toNat] := if_pos ⟨hpos, h⟩

theorem encodeChar_eq_utf8EncodeChar {c : Char} (h : Shared c) :
    encodeChar c = String.utf8EncodeChar c := by
  rcases Nat.lt_or_ge c.toNat 0x80 with hascii | hlow
  · rw [encodeChar_of_ascii h.1 hascii, utf8EncodeChar_of_ascii hascii]
  · rw [utf8EncodeChar_of_unit hlow h.2, encodeChar, if_neg (by omega), units_of_lt h.2,
      List.flatMap_singleton]

/-- A text without NUL and without supplementary characters has the same bytes in both forms. -/
theorem encode_eq_utf8 {s : String} (h : ∀ c ∈ s.toList, Shared c) : encode s = utf8 s := by
  have hmap : s.toList.map encodeChar = s.toList.map String.utf8EncodeChar :=
    List.map_congr_left fun c hc => encodeChar_eq_utf8EncodeChar (h c hc)
  rw [encode, utf8, List.flatMap_def, List.flatMap_def, hmap]

/-- A byte that modified UTF-8 uses for a character of its own. -/
def Plain (b : UInt8) : Prop := 0 < b.toNat ∧ b.toNat < 0x80

theorem encodeUnit_head (u : Nat) (hu : u < 0x10000) :
    ∃ b bs, encodeUnit u = b :: bs ∧ ¬ Plain b := by
  unfold encodeUnit
  split
  next h =>
    have hbyte : (UInt8.ofNat (0xC0 + u / 0x40)).toNat = 0xC0 + u / 0x40 :=
      toNat_byte (by omega)
    exact ⟨_, _, rfl, fun hplain => by have := hplain.2; omega⟩
  next h =>
    have hbyte : (UInt8.ofNat (0xE0 + u / 0x1000)).toNat = 0xE0 + u / 0x1000 :=
      toNat_byte (by omega)
    exact ⟨_, _, rfl, fun hplain => by have := hplain.2; omega⟩

/-- What is no ASCII character begins with a byte that is none, in both forms. -/
theorem encodeChar_head {c : Char} (h : ¬ (0 < c.toNat ∧ c.toNat < 0x80)) :
    ∃ b bs, encodeChar c = b :: bs ∧ ¬ Plain b := by
  rw [encodeChar, if_neg h]
  obtain ⟨u, us, hunits⟩ : ∃ u us, Utf16.units c = u :: us := by
    unfold Utf16.units
    split <;> exact ⟨_, _, rfl⟩
  obtain ⟨b, bs, hbytes, hplain⟩ :=
    encodeUnit_head u (units_lt c u (hunits ▸ List.mem_cons_self))
  exact ⟨b, bs ++ us.flatMap encodeUnit, by rw [hunits, List.flatMap_cons, hbytes]; rfl, hplain⟩

theorem utf8EncodeChar_head {c : Char} (h : ¬ (0 < c.toNat ∧ c.toNat < 0x80)) :
    ∃ b bs, String.utf8EncodeChar c = b :: bs ∧ ¬ Plain b := by
  rcases Nat.lt_or_ge c.toNat 0x80 with hascii | hlow
  · have hzero : c.toNat = 0 := by omega
    rw [utf8EncodeChar_of_ascii hascii, hzero]
    exact ⟨_, _, rfl, fun hplain => Nat.lt_irrefl 0 hplain.1⟩
  rcases Nat.lt_or_ge c.toNat 0x10000 with hhigh | hsupplementary
  · rw [utf8EncodeChar_of_unit hlow hhigh]
    exact encodeUnit_head _ hhigh
  · have hbound := (Utf16.toNat_not_surrogate c).2
    have hbyte : (UInt8.ofNat (0xF0 + c.toNat / 0x40000)).toNat = 0xF0 + c.toNat / 0x40000 :=
      toNat_byte (by omega)
    rw [utf8EncodeChar_of_supplementary hsupplementary]
    exact ⟨_, _, rfl, fun hplain => by have := hplain.2; omega⟩

/-- An ASCII prefix is found in both forms of a text or in neither. -/
theorem isPrefixOf_flatMap_encodeChar {pattern : Bytes} (h : ∀ b ∈ pattern, Plain b)
    (cs : List Char) :
    pattern.isPrefixOf (cs.flatMap encodeChar) =
      pattern.isPrefixOf (cs.flatMap String.utf8EncodeChar) := by
  induction cs generalizing pattern with
  | nil => rfl
  | cons c cs ih =>
    cases pattern with
    | nil => rfl
    | cons p pattern =>
      have hp : Plain p := h p List.mem_cons_self
      rw [List.flatMap_cons, List.flatMap_cons]
      by_cases hc : 0 < c.toNat ∧ c.toNat < 0x80
      · rw [encodeChar_of_ascii hc.1 hc.2, utf8EncodeChar_of_ascii hc.2]
        simp only [List.singleton_append, List.isPrefixOf]
        rw [ih fun b hb => h b (List.mem_cons_of_mem p hb)]
      · -- neither form goes on with a byte of the prefix
        have hmiss : ∀ {b : UInt8}, ¬ Plain b → (p == b) = false := by
          intro b hb
          exact beq_eq_false_iff_ne.mpr fun heq => hb (heq ▸ hp)
        obtain ⟨b, bs, hencode, hb⟩ := encodeChar_head hc
        obtain ⟨b', bs', hutf8, hb'⟩ := utf8EncodeChar_head hc
        rw [hencode, hutf8]
        simp only [List.cons_append, List.isPrefixOf, hmiss hb, hmiss hb', Bool.false_and]

end ModifiedUtf8

/-- The marker is found in either form of a name. -/
theorem isInlineMarker_encode (s : String) :
    isInlineMarker (ModifiedUtf8.encode s) = isInlineMarker (utf8 s) := by
  have hplain : ∀ b ∈ inlineMarker, ModifiedUtf8.Plain b := by
    simp [inlineMarker, ModifiedUtf8.Plain]
  exact ModifiedUtf8.isPrefixOf_flatMap_encodeChar hplain s.toList

end ClosureSpan
