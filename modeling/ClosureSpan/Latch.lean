/-!
# Latches

A latch is settled by the first computation offered to it, whether that succeeds or fails, and never
changes afterwards: a failure is remembered just as a value is.

## Main definitions

* `Latch α` — fresh, settled without a value, or settled with one.
* `Latch.settle` — offers a computation, which runs only if the latch is fresh.
-/

namespace ClosureSpan

/-- A value that is computed at most once. -/
inductive Latch (α : Type) where
  /-- Nothing has been computed yet. -/
  | fresh
  /-- The computation ran and failed. -/
  | unavailable
  /-- The computation ran and gave this value. -/
  | ready (value : α)
  deriving Repr, DecidableEq

namespace Latch

variable {α : Type} {m : Type → Type} [Monad m]

/-- The value, if the latch was settled with one. -/
def get? : Latch α → Option α
  | ready value => some value
  | _ => none

/-- The latch that the outcome of its computation settles. -/
def ofOutcome : Option α → Latch α
  | some value => ready value
  | none => unavailable

/-- Runs `compute` if the latch is fresh, and keeps its outcome. -/
def settle (latch : Latch α) (compute : m (Option α)) : m (Latch α) :=
  match latch with
  | fresh => ofOutcome <$> compute
  | settled => pure settled

@[simp] theorem get?_ofOutcome (outcome : Option α) : (ofOutcome outcome).get? = outcome := by
  cases outcome <;> rfl

@[simp] theorem settle_ready (value : α) (compute : m (Option α)) :
    (ready value).settle compute = pure (ready value) := rfl

@[simp] theorem settle_unavailable (compute : m (Option α)) :
    (unavailable : Latch α).settle compute = pure unavailable := rfl

@[simp] theorem settle_fresh (compute : m (Option α)) :
    (fresh : Latch α).settle compute = ofOutcome <$> compute := rfl

end Latch
end ClosureSpan
