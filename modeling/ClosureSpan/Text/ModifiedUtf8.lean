import ClosureSpan.Text.Utf16

/-!
# Modified UTF-8

The string form of class files and of the interfaces of the virtual machine.  It writes each UTF-16
code unit on its own, in one, two or three bytes, so a supplementary character takes six bytes; and
it writes NUL in two bytes, so that no zero byte occurs in a written text.

Reading is total and lenient.  It also takes the four-byte forms of standard UTF-8 and overlong
forms, and each byte that begins no complete form stands for one replacement character.

## Main definitions

* `ModifiedUtf8.encode s` — the bytes of a text.
* `ModifiedUtf8.decode bs` — the text of any bytes.
* `utf8 s` — the bytes of a text in standard UTF-8.
-/

namespace ClosureSpan

/-- A byte string. -/
abbrev Bytes := List UInt8

/-- The bytes of a text in standard UTF-8. -/
def utf8 (s : String) : Bytes := s.toList.flatMap String.utf8EncodeChar

namespace ModifiedUtf8

/-! ### Writing -/

/-- The two-byte form of a unit below `0x800`, the three-byte form of any other. -/
def encodeUnit (u : Nat) : Bytes :=
  if u < 0x800 then [UInt8.ofNat (0xC0 + u / 0x40), UInt8.ofNat (0x80 + u % 0x40)]
  else
    [UInt8.ofNat (0xE0 + u / 0x1000), UInt8.ofNat (0x80 + u / 0x40 % 0x40),
      UInt8.ofNat (0x80 + u % 0x40)]

/-- An ASCII character other than NUL is its own byte; any other is written unit by unit. -/
def encodeChar (c : Char) : Bytes :=
  if 0 < c.toNat ∧ c.toNat < 0x80 then [UInt8.ofNat c.toNat]
  else (Utf16.units c).flatMap encodeUnit

/-- The modified UTF-8 bytes of a text. -/
def encode (s : String) : Bytes := s.toList.flatMap encodeChar

/-! ### Reading -/

/-- A form at the front of a byte string: the code units it stands for, and how many of the bytes
after the first belong to it. -/
structure Form where
  /-- The code units that the form stands for. -/
  units : List Nat
  /-- The number of bytes behind the lead byte that belong to the form. -/
  extra : Nat
  deriving Repr, DecidableEq

/-- A byte that begins no complete form is read alone. -/
def Form.damaged : Form := ⟨[Utf16.replacement.toNat], 0⟩

/-- The number whose high bits are `lead` and whose low bits are the six payload bits of each of the
next `n` bytes, all of which have to be continuation bytes `10xxxxxx`. -/
def payload : Nat → Nat → Bytes → Option Nat
  | 0, lead, _ => some lead
  | _ + 1, _, [] => none
  | n + 1, lead, b :: rest =>
    if b.toNat / 0x40 = 2 then payload n (lead * 0x40 + b.toNat % 0x40) rest else none

/-- The form that begins with the byte `b` before `rest`.  The lead byte alone decides how many
bytes the form wants; a four-byte form has to denote a character. -/
def Form.read (b : UInt8) (rest : Bytes) : Form :=
  let lead := b.toNat
  if lead < 0x80 then ⟨[lead], 0⟩
  else if lead < 0xC0 then damaged
  else if lead < 0xE0 then
    match payload 1 (lead % 0x20) rest with
    | some u => ⟨[u], 1⟩
    | none => damaged
  else if lead < 0xF0 then
    match payload 2 (lead % 0x10) rest with
    | some u => ⟨[u], 2⟩
    | none => damaged
  else if lead < 0xF8 then
    match payload 3 (lead % 0x08) rest with
    | some n => if n.isValidChar then ⟨Utf16.units (Char.ofNat n), 3⟩ else damaged
    | none => damaged
  else damaged

/-- The code units of a byte string whose first `skip` bytes belong to a form already read. -/
def unitsFrom : Nat → Bytes → List Nat
  | _, [] => []
  | skip + 1, _ :: rest => unitsFrom skip rest
  | 0, b :: rest => (Form.read b rest).units ++ unitsFrom (Form.read b rest).extra rest

/-- The text of any byte string, damaged forms and unpaired surrogates replaced. -/
def decode (bs : Bytes) : String := String.ofList (Utf16.chars (unitsFrom 0 bs))

/-! ### One byte string, form by form -/

@[simp] theorem unitsFrom_nil (skip : Nat) : unitsFrom skip [] = [] := by
  cases skip <;> rfl

@[simp] theorem unitsFrom_succ_cons (skip : Nat) (b : UInt8) (rest : Bytes) :
    unitsFrom (skip + 1) (b :: rest) = unitsFrom skip rest := rfl

@[simp] theorem unitsFrom_zero_cons (b : UInt8) (rest : Bytes) :
    unitsFrom 0 (b :: rest)
      = (Form.read b rest).units ++ unitsFrom (Form.read b rest).extra rest := rfl

/-- Skipping is dropping. -/
theorem unitsFrom_eq_drop (skip : Nat) (bs : Bytes) :
    unitsFrom skip bs = unitsFrom 0 (bs.drop skip) := by
  induction bs generalizing skip with
  | nil => simp
  | cons b rest ih =>
    cases skip with
    | zero => rfl
    | succ skip => simpa using ih skip

end ModifiedUtf8
end ClosureSpan
