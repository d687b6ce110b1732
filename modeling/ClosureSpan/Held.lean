/-!
# Held values

Some values are lent: whoever obtains one has to give it back.  A use of such a value ends with its
release, whether the use succeeds or fails.

## Main definitions

* `Held m α` — a value with the action that gives it back.
* `Held.use` — acquires a value, uses it and gives it back.

## Main results

* `Held.run_use` — what a use does, step by step.
-/

namespace ClosureSpan

variable {m : Type → Type} [Monad m] {ε α β : Type}

/-- A value whose holder has to give it back. -/
structure Held (m : Type → Type) (α : Type) where
  /-- What is held. -/
  value : α
  /-- Gives it back. -/
  release : m Unit

namespace Held

/-- A value that nobody wants back. -/
def owned (value : α) : Held m α := ⟨value, pure ()⟩

/-- A held value seen through a function. -/
def map (f : α → β) (held : Held m α) : Held m β := ⟨f held.value, held.release⟩

/-- Acquires a value, uses it, and gives it back whether the use succeeded or failed. -/
def use (acquire : ExceptT ε m (Held m α)) (body : α → ExceptT ε m β) : ExceptT ε m β := do
  let held ← acquire
  ExceptT.mk do
    let outcome ← (body held.value).run
    held.release
    pure outcome

/-- What a use does, step by step.  A value that was not acquired is not given back. -/
theorem run_use (acquire : ExceptT ε m (Held m α)) (body : α → ExceptT ε m β) :
    (use acquire body).run = acquire.run >>= fun
      | .ok held => do
        let outcome ← (body held.value).run
        held.release
        pure outcome
      | .error fault => pure (.error fault) := by
  unfold use
  rw [ExceptT.run_bind]
  congr 1
  funext outcome
  cases outcome <;> rfl

end Held

end ClosureSpan
