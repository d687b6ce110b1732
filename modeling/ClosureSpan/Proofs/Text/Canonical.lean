import ClosureSpan.Proofs.Text.Codec

/-!
# Canonical modified UTF-8

Reading is lenient, so a text is read from many byte strings.  It is written as one of them only.
Which ones are written can be said without the writer: those put together from the shortest forms of
characters, where NUL takes two bytes and a supplementary character takes two surrogates.

## Main definitions

* `CanonicalForm` — the bytes of one character.
* `Canonical` — forms one after the other.

## Main results

* `canonicalForm_iff` — the canonical forms are the written characters.
* `canonical_iff` — the canonical byte strings are the written texts.
* `encode_decode_inverse` — **writing and reading are inverse, on all texts and on the canonical
  byte strings, and only there.**
-/

namespace ClosureSpan
namespace ModifiedUtf8

/-! ### Forms -/

/-- A byte `10xxxxxx`. -/
def IsContinuation (b : UInt8) : Prop := 0x80 ≤ b.toNat ∧ b.toNat ≤ 0xBF

/-- The code point that a byte `1110xxxx` and two continuation bytes denote. -/
def threeBytePoint (b c d : UInt8) : Nat :=
  (b.toNat - 0xE0) * 0x1000 + (c.toNat - 0x80) * 0x40 + (d.toNat - 0x80)

/-- The bytes of one character. -/
inductive CanonicalForm : Bytes → Prop
  /-- An ASCII character other than NUL is its own byte. -/
  | ascii {b : UInt8} (hb : 0x01 ≤ b.toNat ∧ b.toNat ≤ 0x7F) : CanonicalForm [b]
  /-- NUL takes two bytes. -/
  | nul : CanonicalForm [0xC0, 0x80]
  /-- The two-byte forms, of which `C0` and `C1` would begin overlong ones. -/
  | two {b c : UInt8} (hb : 0xC2 ≤ b.toNat ∧ b.toNat ≤ 0xDF) (hc : IsContinuation c) :
    CanonicalForm [b, c]
  /-- The three-byte forms that are not overlong and denote no surrogate. -/
  | three {b c d : UInt8} (hb : 0xE0 ≤ b.toNat ∧ b.toNat ≤ 0xEF) (hc : IsContinuation c)
    (hd : IsContinuation d) (hlong : 0x800 ≤ threeBytePoint b c d)
    (hscalar : threeBytePoint b c d < 0xD800 ∨ 0xDFFF < threeBytePoint b c d) :
    CanonicalForm [b, c, d]
  /-- A high surrogate and a low surrogate, in three bytes each. -/
  | six {b c d e : UInt8} (hb : 0xA0 ≤ b.toNat ∧ b.toNat ≤ 0xAF) (hc : IsContinuation c)
    (hd : 0xB0 ≤ d.toNat ∧ d.toNat ≤ 0xBF) (he : IsContinuation e) :
    CanonicalForm [0xED, b, c, 0xED, d, e]

/-- Forms one after the other. -/
inductive Canonical : Bytes → Prop
  /-- The empty text. -/
  | nil : Canonical []
  /-- A form before others. -/
  | append {form rest : Bytes} (hform : CanonicalForm form) (hrest : Canonical rest) :
    Canonical (form ++ rest)

theorem CanonicalForm.zero_notMem {form : Bytes} (h : CanonicalForm form) : 0 ∉ form := by
  -- in no form is there a byte that can be zero
  have hbyte : ∀ {b : UInt8}, 0 < b.toNat → b ≠ 0 := by
    rintro b hb rfl
    exact Nat.lt_irrefl 0 hb
  intro hzero
  cases h with
  | ascii hb => exact hbyte hb.1 (List.mem_singleton.mp hzero).symm
  | nul => exact absurd hzero (by decide)
  | two hb hc =>
    have hb0 := hbyte (Nat.lt_of_lt_of_le (by decide) hb.1)
    have hc0 := hbyte (Nat.lt_of_lt_of_le (by decide) hc.1)
    simp [hb0.symm, hc0.symm] at hzero
  | three hb hc hd =>
    have hb0 := hbyte (Nat.lt_of_lt_of_le (by decide) hb.1)
    have hc0 := hbyte (Nat.lt_of_lt_of_le (by decide) hc.1)
    have hd0 := hbyte (Nat.lt_of_lt_of_le (by decide) hd.1)
    simp [hb0.symm, hc0.symm, hd0.symm] at hzero
  | six hb hc hd he =>
    have hb0 := hbyte (Nat.lt_of_lt_of_le (by decide) hb.1)
    have hc0 := hbyte (Nat.lt_of_lt_of_le (by decide) hc.1)
    have hd0 := hbyte (Nat.lt_of_lt_of_le (by decide) hd.1)
    have he0 := hbyte (Nat.lt_of_lt_of_le (by decide) he.1)
    simp [hb0.symm, hc0.symm, hd0.symm, he0.symm] at hzero

theorem Canonical.zero_notMem {bs : Bytes} (h : Canonical bs) : 0 ∉ bs := by
  induction h with
  | nil => exact List.not_mem_nil
  | append hform _ ih =>
    intro hzero
    rcases List.mem_append.mp hzero with hzero | hzero
    · exact hform.zero_notMem hzero
    · exact ih hzero

/-! ### Forms are written characters -/

theorem ofNat_eq {n : Nat} {b : UInt8} (h : n = b.toNat) : UInt8.ofNat n = b := by
  rw [h, UInt8.ofNat_toNat]

theorem toNat_ofNat {n : Nat} (h : n < 0xD800 ∨ 0xDFFF < n ∧ n < 0x110000) :
    (Char.ofNat n).toNat = n := by
  have hvalid : n.isValidChar := h
  rw [Char.ofNat, dif_pos hvalid]
  rfl

/-- A character of one unit, unless it is an ASCII character other than NUL, is written as that
unit. -/
theorem encodeChar_of_unit {c : Char} (hascii : ¬ (0 < c.toNat ∧ c.toNat < 0x80))
    (h : c.toNat < 0x10000) : encodeChar c = encodeUnit c.toNat := by
  rw [encodeChar, if_neg hascii, units_of_lt h, List.flatMap_singleton]

theorem encodeUnit_twoByte {b c : UInt8} (hb : 0xC0 ≤ b.toNat ∧ b.toNat ≤ 0xDF)
    (hc : IsContinuation c) :
    encodeUnit ((b.toNat - 0xC0) * 0x40 + (c.toNat - 0x80)) = [b, c] := by
  obtain ⟨hc1, hc2⟩ := hc
  have hlead : 0xC0 + ((b.toNat - 0xC0) * 0x40 + (c.toNat - 0x80)) / 0x40 = b.toNat := by omega
  have hlow : 0x80 + ((b.toNat - 0xC0) * 0x40 + (c.toNat - 0x80)) % 0x40 = c.toNat := by omega
  rw [encodeUnit, if_pos (by omega), ofNat_eq hlead, ofNat_eq hlow]

theorem encodeUnit_threeByte {b c d : UInt8} (hb : 0xE0 ≤ b.toNat ∧ b.toNat ≤ 0xEF)
    (hc : IsContinuation c) (hd : IsContinuation d) (hlong : 0x800 ≤ threeBytePoint b c d) :
    encodeUnit (threeBytePoint b c d) = [b, c, d] := by
  obtain ⟨hc1, hc2⟩ := hc
  obtain ⟨hd1, hd2⟩ := hd
  have hlead : 0xE0 + threeBytePoint b c d / 0x1000 = b.toNat := by
    unfold threeBytePoint
    omega
  have hmiddle : 0x80 + threeBytePoint b c d / 0x40 % 0x40 = c.toNat := by
    unfold threeBytePoint
    omega
  have hlow : 0x80 + threeBytePoint b c d % 0x40 = d.toNat := by
    unfold threeBytePoint
    omega
  rw [encodeUnit, if_neg (by omega), ofNat_eq hlead, ofNat_eq hmiddle, ofNat_eq hlow]

theorem threeBytePoint_of_lead {b c d : UInt8} (hb : b.toNat = 0xED) :
    threeBytePoint b c d = 0xD000 + (c.toNat - 0x80) * 0x40 + (d.toNat - 0x80) := by
  unfold threeBytePoint
  omega

/-- The bytes of a unit of three bytes denote the unit. -/
theorem encodeUnit_of_le {u : Nat} (hlow : 0x800 ≤ u) (hhigh : u < 0x10000) :
    ∃ b c d : UInt8, encodeUnit u = [b, c, d] ∧ b.toNat = 0xE0 + u / 0x1000 ∧
      c.toNat = 0x80 + u / 0x40 % 0x40 ∧ IsContinuation c ∧ IsContinuation d ∧
      threeBytePoint b c d = u := by
  have hb : (UInt8.ofNat (0xE0 + u / 0x1000)).toNat = 0xE0 + u / 0x1000 := toNat_byte (by omega)
  have hc : (UInt8.ofNat (0x80 + u / 0x40 % 0x40)).toNat = 0x80 + u / 0x40 % 0x40 :=
    toNat_byte (by omega)
  have hd : (UInt8.ofNat (0x80 + u % 0x40)).toNat = 0x80 + u % 0x40 := toNat_byte (by omega)
  have hbytes : encodeUnit u = [UInt8.ofNat (0xE0 + u / 0x1000),
      UInt8.ofNat (0x80 + u / 0x40 % 0x40), UInt8.ofNat (0x80 + u % 0x40)] := by
    rw [encodeUnit, if_neg (by omega)]
  refine ⟨UInt8.ofNat (0xE0 + u / 0x1000), UInt8.ofNat (0x80 + u / 0x40 % 0x40),
    UInt8.ofNat (0x80 + u % 0x40), hbytes, hb, hc, ?_, ?_, ?_⟩
  · rw [IsContinuation, hc]
    omega
  · rw [IsContinuation, hd]
    omega
  · unfold threeBytePoint
    omega

theorem units_of_le {c : Char} (h : 0x10000 ≤ c.toNat) : Utf16.units c =
    [0xD800 + (c.toNat - 0x10000) / 0x400, 0xDC00 + (c.toNat - 0x10000) % 0x400] :=
  if_neg (by omega)

/-- What is written for a character is a canonical form. -/
theorem canonicalForm_encodeChar (c : Char) : CanonicalForm (encodeChar c) := by
  obtain ⟨hscalar, hbound⟩ := Utf16.toNat_not_surrogate c
  by_cases hascii : 0 < c.toNat ∧ c.toNat < 0x80
  · have hbyte : (UInt8.ofNat c.toNat).toNat = c.toNat := toNat_byte (by omega)
    rw [encodeChar_of_ascii hascii.1 hascii.2]
    exact .ascii (by omega)
  rcases Nat.lt_or_ge c.toNat 0x10000 with hunit | hsupplementary
  · rw [encodeChar_of_unit hascii hunit]
    rcases Nat.lt_or_ge c.toNat 0x800 with hshort | hlong
    · by_cases hnul : c.toNat = 0
      · rw [hnul]
        exact .nul
      · have hb : (UInt8.ofNat (0xC0 + c.toNat / 0x40)).toNat = 0xC0 + c.toNat / 0x40 :=
          toNat_byte (by omega)
        have hc : (UInt8.ofNat (0x80 + c.toNat % 0x40)).toNat = 0x80 + c.toNat % 0x40 :=
          toNat_byte (by omega)
        rw [encodeUnit, if_pos hshort]
        refine .two (by omega) ?_
        rw [IsContinuation, hc]
        omega
    · obtain ⟨b, x, y, hbytes, hb, -, hx, hy, hpoint⟩ := encodeUnit_of_le hlong hunit
      rw [hbytes]
      refine .three (by omega) hx hy (by omega) ?_
      rw [hpoint]
      exact hscalar
  · -- both units are surrogates, so both lead bytes are `ED`
    have hhigh := encodeUnit_of_le (u := 0xD800 + (c.toNat - 0x10000) / 0x400) (by omega) (by omega)
    have hlow := encodeUnit_of_le (u := 0xDC00 + (c.toNat - 0x10000) % 0x400) (by omega) (by omega)
    obtain ⟨b, x, y, hbytes, hb, hx, -, hy, -⟩ := hhigh
    obtain ⟨b', x', y', hbytes', hb', hx', -, hy', -⟩ := hlow
    have hlead : b = UInt8.ofNat 0xED := (ofNat_eq (by omega)).symm
    have hlead' : b' = UInt8.ofNat 0xED := (ofNat_eq (by omega)).symm
    rw [encodeChar, if_neg hascii, units_of_le hsupplementary, List.flatMap_cons,
      List.flatMap_singleton, hbytes, hbytes', hlead, hlead']
    exact .six (by omega) hy (by omega) hy'

/-- Every canonical form is what is written for some character. -/
theorem CanonicalForm.exists_encodeChar_eq {form : Bytes} (h : CanonicalForm form) :
    ∃ c, encodeChar c = form := by
  cases h with
  | @ascii b hb =>
    have hnat := toNat_ofNat (n := b.toNat) (by omega)
    refine ⟨Char.ofNat b.toNat, ?_⟩
    rw [encodeChar_of_ascii (by omega) (by omega), ofNat_eq hnat]
  | nul => exact ⟨Char.ofNat 0, by decide⟩
  | @two b c hb hc =>
    have hc' := hc
    obtain ⟨hc1, hc2⟩ := hc'
    have hnat := toNat_ofNat (n := (b.toNat - 0xC0) * 0x40 + (c.toNat - 0x80)) (by omega)
    refine ⟨Char.ofNat ((b.toNat - 0xC0) * 0x40 + (c.toNat - 0x80)), ?_⟩
    rw [encodeChar_of_unit (by omega) (by omega), hnat, encodeUnit_twoByte (by omega) hc]
  | @three b c d hb hc hd hlong hscalar =>
    have hbound : threeBytePoint b c d < 0x10000 := by
      obtain ⟨hc1, hc2⟩ := hc
      obtain ⟨hd1, hd2⟩ := hd
      unfold threeBytePoint
      omega
    have hnat := toNat_ofNat (n := threeBytePoint b c d) (by omega)
    refine ⟨Char.ofNat (threeBytePoint b c d), ?_⟩
    rw [encodeChar_of_unit (by omega) (by omega), hnat, encodeUnit_threeByte hb hc hd hlong]
  | @six b c d e hb hc hd he =>
    have hhigh := threeBytePoint_of_lead (b := 0xED) (c := b) (d := c) rfl
    have hlow := threeBytePoint_of_lead (b := 0xED) (c := d) (d := e) rfl
    have hbytes : encodeUnit (threeBytePoint 0xED b c) = [0xED, b, c] :=
      encodeUnit_threeByte (by decide) ⟨by omega, by omega⟩ hc (by omega)
    have hbytes' : encodeUnit (threeBytePoint 0xED d e) = [0xED, d, e] :=
      encodeUnit_threeByte (by decide) ⟨by omega, by omega⟩ he (by omega)
    obtain ⟨hc1, hc2⟩ := hc
    obtain ⟨he1, he2⟩ := he
    have hnat := toNat_ofNat (n := 0x10000 + (threeBytePoint 0xED b c - 0xD800) * 0x400 +
      (threeBytePoint 0xED d e - 0xDC00)) (by omega)
    refine ⟨Char.ofNat (0x10000 + (threeBytePoint 0xED b c - 0xD800) * 0x400 +
      (threeBytePoint 0xED d e - 0xDC00)), ?_⟩
    rw [encodeChar, if_neg (by omega), units_of_le (by omega), hnat, List.flatMap_cons,
      List.flatMap_singleton]
    rw [show 0xD800 + (0x10000 + (threeBytePoint 0xED b c - 0xD800) * 0x400 +
        (threeBytePoint 0xED d e - 0xDC00) - 0x10000) / 0x400 = threeBytePoint 0xED b c by omega,
      show 0xDC00 + (0x10000 + (threeBytePoint 0xED b c - 0xD800) * 0x400 +
        (threeBytePoint 0xED d e - 0xDC00) - 0x10000) % 0x400 = threeBytePoint 0xED d e by omega,
      hbytes, hbytes']
    rfl

theorem canonicalForm_iff {form : Bytes} : CanonicalForm form ↔ ∃ c, encodeChar c = form := by
  constructor
  · exact CanonicalForm.exists_encodeChar_eq
  · rintro ⟨c, rfl⟩
    exact canonicalForm_encodeChar c

/-! ### Canonical byte strings are written texts -/

theorem canonical_encode (s : String) : Canonical (encode s) := by
  rw [encode]
  induction s.toList with
  | nil => exact .nil
  | cons c cs ih =>
    rw [List.flatMap_cons]
    exact .append (canonicalForm_encodeChar c) ih

theorem Canonical.exists_chars {bs : Bytes} (h : Canonical bs) :
    ∃ cs : List Char, cs.flatMap encodeChar = bs := by
  induction h with
  | nil => exact ⟨[], rfl⟩
  | append hform _ ih =>
    obtain ⟨c, rfl⟩ := canonicalForm_iff.mp hform
    obtain ⟨cs, rfl⟩ := ih
    exact ⟨c :: cs, List.flatMap_cons⟩

theorem canonical_iff {bs : Bytes} : Canonical bs ↔ ∃ s, encode s = bs := by
  constructor
  · intro h
    obtain ⟨cs, hcs⟩ := h.exists_chars
    exact ⟨String.ofList cs, by rw [encode, String.toList_ofList, hcs]⟩
  · rintro ⟨s, rfl⟩
    exact canonical_encode s

/-- No zero byte occurs in a written text. -/
theorem zero_notMem_encode (s : String) : 0 ∉ encode s := (canonical_encode s).zero_notMem

/-- What is read from a byte string is written as the same bytes if and only if they are
canonical. -/
theorem encode_decode_eq_iff {bs : Bytes} : encode (decode bs) = bs ↔ Canonical bs := by
  constructor
  · intro h
    exact canonical_iff.mpr ⟨decode bs, h⟩
  · intro h
    obtain ⟨s, rfl⟩ := canonical_iff.mp h
    rw [decode_encode]

/-- **Writing and reading are inverse**: every text is read back from its bytes, among which no byte
is zero, and exactly the canonical byte strings are written back from what is read from them. -/
theorem encode_decode_inverse :
    (∀ s, decode (encode s) = s ∧ 0 ∉ encode s) ∧
      ∀ bs, encode (decode bs) = bs ↔ Canonical bs :=
  ⟨fun s => ⟨decode_encode s, zero_notMem_encode s⟩, fun _ => encode_decode_eq_iff⟩

end ModifiedUtf8
end ClosureSpan
