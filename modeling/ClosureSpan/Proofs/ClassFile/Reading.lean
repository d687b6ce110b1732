import ClosureSpan.Proofs.ClassFile.Layout

/-!
# Readers and what they read

A reader succeeds on a byte string if and only if the byte string begins with the bytes of some part
of a file, and what it gives is what that part means.  This is said once for each primitive reader
and once for each way of putting readers together.

## Main definitions

* `Reader.Reads read write Means` — `read` accepts the parts whose bytes `write` gives.
* `Reader.counted`, `Reader.skipCounted`, `Reader.skipEntries`, `Reader.skipBlock` — readers of what
  stands behind its number.

## Main results

* `bind_eq_ok_iff`, `lift_eq_ok_iff` — when one reader after the other succeeds.
* `u1_reads`, `u2_reads`, `u4_reads`, `bytes_eq_ok_iff`, `skip_eq_ok_iff` — numbers and plain bytes.
* `Reads.times`, `Reads.counted`, `Reads.skipCounted` — the same part many times.
* `skipEntries_reads`, `skipBlock_reads` — what is left out.
-/

namespace ClosureSpan
namespace Reader

variable {α β L : Type}

/-! ### One reader after the other -/

/-- What `read` takes from the front of a byte string are the bytes of a part, and what it gives is
what the part means. -/
def Reads (read : Reader α) (write : L → Bytes) (Means : L → α → Prop) : Prop :=
  ∀ bs value rest, read bs = .ok (value, rest) ↔ ∃ raw, bs = write raw ++ rest ∧ Means raw value

theorem bind_eq_ok_iff {read : Reader α} {next : α → Reader β} {bs rest : Bytes} {value : β} :
    (read >>= next) bs = .ok (value, rest) ↔
      ∃ first between, read bs = .ok (first, between) ∧ next first between = .ok (value, rest) := by
  rw [run_bind]
  cases h : read bs with
  | error fault => simp
  | ok result => obtain ⟨first, between⟩ := result; simp

theorem pure_eq_ok_iff {given value : α} {bs rest : Bytes} :
    (pure given : Reader α) bs = .ok (value, rest) ↔ value = given ∧ bs = rest := by
  rw [run_pure]
  simp [eq_comm]

theorem lift_eq_ok_iff {outcome : Except ParseError α} {value : α} {bs rest : Bytes} :
    (liftM outcome : Reader α) bs = .ok (value, rest) ↔ outcome = .ok value ∧ bs = rest := by
  rw [run_lift]
  cases outcome <;> simp [Except.map]

theorem u1_reads : Reads u1 (fun byte : UInt8 => [byte]) fun raw n => n = raw.toNat := by
  intro bs n rest
  cases bs with
  | nil => simp [u1]
  | cons a bs =>
    simp only [u1, Except.ok.injEq, Prod.mk.injEq, List.singleton_append, List.cons.injEq]
    constructor
    · rintro ⟨rfl, rfl⟩; exact ⟨a, ⟨rfl, rfl⟩, rfl⟩
    · rintro ⟨_, ⟨rfl, rfl⟩, rfl⟩; exact ⟨rfl, rfl⟩

theorem u2_reads : Reads u2 twoBytes fun raw n => n = raw.toNat := by
  intro bs n rest
  constructor
  · intro h
    match bs, h with
    | a :: b :: bs, h =>
      obtain ⟨rfl, rfl⟩ : a.toNat * 0x100 + b.toNat = n ∧ bs = rest := by simpa [u2] using h
      have ha := a.toNat_lt
      have hb := b.toNat_lt
      have hn : (UInt16.ofNat (a.toNat * 0x100 + b.toNat)).toNat = a.toNat * 0x100 + b.toNat := by
        rw [UInt16.toNat_ofNat']; omega
      -- the bytes are the digits of the number to the base 0x100
      refine ⟨UInt16.ofNat (a.toNat * 0x100 + b.toNat), ?_, hn.symm⟩
      unfold twoBytes
      rw [hn]
      have h1 : (a.toNat * 0x100 + b.toNat) / 0x100 = a.toNat := by omega
      have h2 : (a.toNat * 0x100 + b.toNat) % 0x100 = b.toNat := by omega
      simp [h1, h2]
  · rintro ⟨raw, rfl, rfl⟩
    have := raw.toNat_lt
    simp only [twoBytes, List.cons_append, List.nil_append, u2, UInt8.toNat_ofNat']
    congr 2
    omega

/-- Any two bytes are a number. -/
theorem exists_twoBytes_eq {bs : Bytes} (h : bs.length = 2) : ∃ n, bs = twoBytes n := by
  match bs, h with
  | [a, b], _ =>
    obtain ⟨n, hn, -⟩ := (u2_reads [a, b] _ []).mp rfl
    exact ⟨n, by simpa using hn⟩

/-- Any four bytes are two numbers. -/
theorem exists_twoBytes_append_eq {bs : Bytes} (h : bs.length = 4) :
    ∃ m n, bs = twoBytes m ++ twoBytes n := by
  obtain ⟨m, hm⟩ := exists_twoBytes_eq (show (bs.take 2).length = 2 by simp [h])
  obtain ⟨n, hn⟩ := exists_twoBytes_eq (show (bs.drop 2).length = 2 by simp [h])
  exact ⟨m, n, by rw [← hm, ← hn, List.take_append_drop]⟩

/-- Any six bytes are three numbers. -/
theorem exists_twoBytes_append_append_eq {bs : Bytes} (h : bs.length = 6) :
    ∃ l m n, bs = twoBytes l ++ twoBytes m ++ twoBytes n := by
  obtain ⟨l, m, hlm⟩ := exists_twoBytes_append_eq (show (bs.take 4).length = 4 by simp [h])
  obtain ⟨n, hn⟩ := exists_twoBytes_eq (show (bs.drop 4).length = 2 by simp [h])
  exact ⟨l, m, n, by rw [← hlm, ← hn, List.take_append_drop]⟩

theorem u4_reads : Reads u4 fourBytes fun raw n => n = raw.toNat := by
  intro bs n rest
  constructor
  · intro h
    match bs, h with
    | a :: b :: c :: d :: bs, h =>
      obtain ⟨hn, rfl⟩ : a.toNat * 0x1000000 + b.toNat * 0x10000 + c.toNat * 0x100 + d.toNat = n ∧
          bs = rest := by simpa [u4] using h
      have ha := a.toNat_lt
      have hb := b.toNat_lt
      have hc := c.toNat_lt
      have hd := d.toNat_lt
      have hword : (UInt32.ofNat n).toNat = n := by rw [UInt32.toNat_ofNat']; omega
      refine ⟨UInt32.ofNat n, ?_, hword.symm⟩
      unfold fourBytes
      rw [hword]
      have h1 : n / 0x1000000 = a.toNat := by omega
      have h2 : n / 0x10000 % 0x100 = b.toNat := by omega
      have h3 : n / 0x100 % 0x100 = c.toNat := by omega
      have h4 : n % 0x100 = d.toNat := by omega
      simp [h1, h2, h3, h4]
  · rintro ⟨raw, rfl, rfl⟩
    have := raw.toNat_lt
    simp only [fourBytes, List.cons_append, List.nil_append, u4, UInt8.toNat_ofNat']
    congr 2
    omega

theorem bytes_eq_ok_iff {n : Nat} {bs contents rest : Bytes} :
    bytes n bs = .ok (contents, rest) ↔ bs = contents ++ rest ∧ contents.length = n := by
  rw [bytes_eq]
  constructor
  · intro h
    split at h
    · obtain ⟨rfl, rfl⟩ : bs.take n = contents ∧ bs.drop n = rest := by simpa using h
      exact ⟨(List.take_append_drop n bs).symm, List.length_take_of_le ‹n ≤ bs.length›⟩
    · simp at h
  · rintro ⟨rfl, rfl⟩
    simp

theorem skip_eq_ok_iff {n : Nat} {bs rest : Bytes} {value : Unit} :
    skip n bs = .ok (value, rest) ↔ ∃ contents, bs = contents ++ rest ∧ contents.length = n := by
  unfold skip
  simp only [bind_eq_ok_iff, bytes_eq_ok_iff, pure_eq_ok_iff]
  constructor
  · rintro ⟨contents, _, ⟨rfl, hlen⟩, -, rfl⟩; exact ⟨contents, rfl, hlen⟩
  · rintro ⟨contents, rfl, hlen⟩; exact ⟨contents, rest, ⟨rfl, hlen⟩, trivial, rfl⟩

theorem Reads.times {read : Reader α} {write : L → Bytes} {Means : L → α → Prop}
    (h : Reads read write Means) (n : Nat) :
    Reads (times read n) (fun raws : List L => raws.flatMap write)
      fun raws values => raws.length = n ∧ List.Forall₂ Means raws values := by
  induction n with
  | zero =>
    intro bs values rest
    rw [times_zero, pure_eq_ok_iff]
    constructor
    · rintro ⟨rfl, rfl⟩; exact ⟨[], rfl, rfl, .nil⟩
    · rintro ⟨raws, rfl, hlen, hall⟩
      obtain rfl := List.length_eq_zero_iff.mp hlen
      cases hall
      exact ⟨rfl, rfl⟩
  | succ n ih =>
    intro bs values rest
    simp only [Reader.times, bind_eq_ok_iff, h _ _ _, ih _ _ _, pure_eq_ok_iff]
    -- the first part is read by `h` and the others by the induction hypothesis
    constructor
    · rintro ⟨value, _, ⟨raw, rfl, hraw⟩, values', _, ⟨raws, rfl, rfl, hraws⟩, rfl, rfl⟩
      exact ⟨raw :: raws, by simp, rfl, .cons hraw hraws⟩
    · rintro ⟨raws, rfl, hlen, hall⟩
      cases hall with
      | nil => simp at hlen
      | @cons raw value raws values hraw hraws =>
        exact ⟨value, _, ⟨raw, by simp, hraw⟩, values, _, ⟨raws, rfl, by simpa using hlen, hraws⟩,
          rfl, rfl⟩

end Reader

/-! ### What stands behind its number -/

theorem Counted.exists_bytes_eq {L : Type} {count : UInt16} {items : List L}
    (h : items.length = count.toNat) (write : L → Bytes) :
    ∃ counted : Counted L,
      counted.items = items ∧ counted.bytes write = twoBytes count ++ items.flatMap write :=
  ⟨⟨items, h ▸ count.toNat_lt⟩, rfl, by simp [Counted.bytes, h]⟩

theorem Counted.toNat_length {L : Type} (counted : Counted L) :
    (UInt16.ofNat counted.items.length).toNat = counted.items.length := by
  rw [UInt16.toNat_ofNat', Nat.mod_eq_of_lt counted.fits]

theorem Block.exists_bytes_eq {length : UInt32} {contents : Bytes}
    (h : contents.length = length.toNat) :
    ∃ block : Block, block.contents = contents ∧ block.bytes = fourBytes length ++ contents :=
  ⟨⟨contents, h ▸ length.toNat_lt⟩, rfl, by simp [Block.bytes, h]⟩

theorem Block.toNat_length (block : Block) :
    (UInt32.ofNat block.contents.length).toNat = block.contents.length := by
  rw [UInt32.toNat_ofNat', Nat.mod_eq_of_lt block.fits]

namespace Reader

variable {α L : Type} {write : L → Bytes}

/-- Reads the number of items and then each of them. -/
def counted (read : Reader α) : Reader (List α) := u2 >>= times read

/-- Reads the number of items and leaves all of them out. -/
def skipCounted (read : Reader Unit) : Reader Unit := counted read >>= fun _ => pure ()

/-- Reads the number of entries of a fixed size and leaves all of them out. -/
def skipEntries (size : Nat) : Reader Unit := u2 >>= fun count => skip (count * size)

/-- Reads the number of bytes and leaves all of them out. -/
def skipBlock : Reader Unit := u4 >>= skip

theorem Reads.counted {read : Reader α} {Means : L → α → Prop} (h : Reads read write Means) :
    Reads (counted read) (Counted.bytes write)
      fun raw values => List.Forall₂ Means raw.items values := by
  intro bs values rest
  unfold Reader.counted
  simp only [bind_eq_ok_iff, u2_reads _ _ _, h.times _ _ _ _]
  constructor
  · rintro ⟨_, _, ⟨count, rfl, rfl⟩, raws, rfl, hlen, hall⟩
    obtain ⟨raw, rfl, hraw⟩ := Counted.exists_bytes_eq hlen write
    exact ⟨raw, by simp [hraw], hall⟩
  · rintro ⟨raw, rfl, hall⟩
    exact ⟨_, _, ⟨_, List.append_assoc _ _ _, rfl⟩, raw.items, rfl, raw.toNat_length.symm, hall⟩

/-- What is left out still has to be there. -/
theorem Reads.skipCounted {read : Reader Unit} (h : Reads read write fun _ _ => True) :
    Reads (skipCounted read) (Counted.bytes write) fun _ _ => True := by
  intro bs value rest
  unfold Reader.skipCounted
  simp only [bind_eq_ok_iff, h.counted _ _ _, pure_eq_ok_iff]
  constructor
  · rintro ⟨_, _, ⟨raw, rfl, -⟩, -, rfl⟩
    exact ⟨raw, rfl, trivial⟩
  · rintro ⟨raw, rfl, -⟩
    have hall : List.Forall₂ (fun _ _ => True) raw.items (raw.items.map fun _ => ()) :=
      List.forall₂_map_right_iff.mpr (List.forall₂_same.mpr fun _ _ => trivial)
    exact ⟨_, rest, ⟨raw, rfl, hall⟩, trivial, rfl⟩

theorem skipEntries_reads (size : Nat) :
    Reads (skipEntries size) Skipped.bytes fun (_ : Skipped size) _ => True := by
  intro bs value rest
  unfold skipEntries
  simp only [bind_eq_ok_iff, u2_reads _ _ _, skip_eq_ok_iff]
  constructor
  · rintro ⟨_, _, ⟨count, rfl, rfl⟩, contents, rfl, hlen⟩
    exact ⟨⟨count, contents, hlen⟩, (List.append_assoc _ _ _).symm, trivial⟩
  · rintro ⟨skipped, rfl, -⟩
    exact ⟨_, _, ⟨skipped.count, List.append_assoc _ _ _, rfl⟩, skipped.contents, rfl,
      skipped.length_eq⟩

theorem skipBlock_reads : Reads skipBlock Block.bytes fun _ _ => True := by
  intro bs value rest
  unfold skipBlock
  simp only [bind_eq_ok_iff, u4_reads _ _ _, skip_eq_ok_iff]
  constructor
  · rintro ⟨_, _, ⟨length, rfl, rfl⟩, contents, rfl, hlen⟩
    obtain ⟨block, rfl, hblock⟩ := Block.exists_bytes_eq hlen
    exact ⟨block, by rw [hblock, List.append_assoc], trivial⟩
  · rintro ⟨block, rfl, -⟩
    exact ⟨_, _, ⟨_, List.append_assoc _ _ _, rfl⟩, block.contents, rfl, block.toNat_length.symm⟩

theorem skip_two_reads : Reads (skip 2) twoBytes fun _ _ => True := by
  intro bs value rest
  simp only [skip_eq_ok_iff]
  constructor
  · rintro ⟨contents, rfl, hlen⟩
    obtain ⟨n, rfl⟩ := exists_twoBytes_eq hlen
    exact ⟨n, rfl, trivial⟩
  · rintro ⟨n, rfl, -⟩
    exact ⟨twoBytes n, rfl, rfl⟩

end Reader
end ClosureSpan
