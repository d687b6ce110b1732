import ClosureSpan.ClassFile.Basic

/-!
# Readers

A reader takes what it wants from the front of a byte string and leaves the rest.  Numbers are
unsigned and have the most significant byte first.

## Main definitions

* `Reader α` — reads an `α` or fails with a `ParseError`.
* `u1`, `u2`, `u4`, `bytes`, `skip` — numbers of one, two and four bytes, and plain bytes.
* `times` — one reader a number of times.
-/

namespace ClosureSpan

/-- Reads an `α` from the front of a byte string, and leaves what is behind it. -/
abbrev Reader (α : Type) := StateT Bytes (Except ParseError) α

namespace Reader

variable {α : Type}

/-- A number of one byte. -/
def u1 : Reader Nat
  | a :: rest => .ok (a.toNat, rest)
  | _ => .error .unexpectedEnd

/-- A number of two bytes. -/
def u2 : Reader Nat
  | a :: b :: rest => .ok (a.toNat * 0x100 + b.toNat, rest)
  | _ => .error .unexpectedEnd

/-- A number of four bytes. -/
def u4 : Reader Nat
  | a :: b :: c :: d :: rest =>
    .ok (a.toNat * 0x1000000 + b.toNat * 0x10000 + c.toNat * 0x100 + d.toNat, rest)
  | _ => .error .unexpectedEnd

/-- The next `n` bytes. -/
def bytes (n : Nat) : Reader Bytes := fun bs =>
  let (taken, rest) := bs.splitAt n
  if taken.length = n then .ok (taken, rest) else .error .unexpectedEnd

/-- Leaves out the next `n` bytes, which have to be there. -/
def skip (n : Nat) : Reader Unit := do
  let _ ← bytes n
  pure ()

/-- What `read` reads when it is used `n` times in a row. -/
def times (read : Reader α) : Nat → Reader (List α)
  | 0 => pure []
  | n + 1 => do
    let first ← read
    let others ← times read n
    pure (first :: others)

/-! ### Running a reader -/

variable {β : Type}

@[simp] theorem run_pure (value : α) (bs : Bytes) :
    (pure value : Reader α) bs = .ok (value, bs) := rfl

@[simp] theorem run_throw (fault : ParseError) (bs : Bytes) :
    (throw fault : Reader α) bs = .error fault := rfl

/-- The second reader starts where the first one stopped. -/
theorem run_bind (read : Reader α) (next : α → Reader β) (bs : Bytes) :
    (read >>= next) bs =
      match read bs with
      | .ok (value, rest) => next value rest
      | .error fault => .error fault := by
  cases h : read bs <;> simp [bind, StateT.bind, Except.bind, h]

/-- An outcome that needs no bytes leaves all of them. -/
theorem run_lift (outcome : Except ParseError α) (bs : Bytes) :
    (liftM outcome : Reader α) bs = outcome.map fun value => (value, bs) := by
  cases outcome <;> rfl

/-- Plain bytes are there or the byte string ends too soon. -/
theorem bytes_eq (n : Nat) (bs : Bytes) :
    bytes n bs =
      if n ≤ bs.length then .ok (bs.take n, bs.drop n) else .error .unexpectedEnd := by
  simp only [bytes, List.splitAt_eq, List.length_take]
  by_cases h : n ≤ bs.length
  · rw [if_pos (Nat.min_eq_left h), if_pos h]
  · rw [if_neg (by omega), if_neg h]

@[simp] theorem times_zero (read : Reader α) : times read 0 = pure [] := rfl

end Reader
end ClosureSpan
