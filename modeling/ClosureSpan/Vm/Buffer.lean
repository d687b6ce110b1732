import ClosureSpan.Held
import ClosureSpan.Vm.Host

/-!
# Buffers

The machine hands out texts and tables in memory of its own.  A buffer is such a pointer with what
it points at.  Null points at nothing and reads as empty, and it is not given back.

## Main definitions

* `Buffer α` with `Buffer.ofText`, `Buffer.ofTable`, `Buffer.release`.
* `VariableEntry`, `VariableTable` — a table whose rows point at further buffers.
* `Buffer.held`, `VariableTable.held` — buffers as held values.
-/

namespace ClosureSpan

/-- A pointer to memory of the machine, and what is read through it. -/
structure Buffer (α : Type) where
  /-- The memory, unless the pointer is null. -/
  memory : Option Allocation
  /-- What is read. -/
  contents : α
  deriving Repr, DecidableEq

namespace Buffer

variable {α ρ : Type}

/-- Hands out a text. -/
def ofText (label : Label) : Option Bytes → HostM (Buffer Bytes)
  | none => pure ⟨none, []⟩
  | some text => do pure ⟨some (← Host.allocate label), text⟩

/-- Hands out a table. -/
def ofTable (label : Label) (table : Table ρ) : HostM (Buffer (List ρ)) := do
  if table.null then pure ⟨none, []⟩ else pure ⟨some (← Host.allocate label), table.visible⟩

/-- Gives the memory back, if there is any. -/
def release (buffer : Buffer α) : HostM Unit :=
  match buffer.memory with
  | none => pure ()
  | some allocation => Host.deallocate allocation

/-- A buffer as a held value. -/
def held (buffer : Buffer α) : Held HostM α := ⟨buffer.contents, buffer.release⟩

end Buffer

/-! ### Local variable tables -/

/-- A row of a local variable table, whose texts are buffers of their own. -/
structure VariableEntry where
  /-- The name. -/
  name : Buffer Bytes
  /-- The first code location where the variable is visible. -/
  start : Int
  /-- The number of code locations where it is visible. -/
  length : Int
  /-- The local variable slot that holds it. -/
  slot : Int
  /-- The descriptor of its type. -/
  signature : Buffer Bytes
  /-- The descriptor of its generic type. -/
  generic : Buffer Bytes
  deriving Repr, DecidableEq

/-- A row of a local variable table as it reads. -/
structure LocalRow where
  /-- The name. -/
  name : Bytes
  /-- The first code location where the variable is visible. -/
  start : Int
  /-- The number of code locations where it is visible. -/
  length : Int
  /-- The local variable slot that holds it. -/
  slot : Int
  /-- The descriptor of its type. -/
  signature : Bytes
  deriving Repr, DecidableEq

namespace VariableEntry

/-- Hands out a row: its name, its type and its generic type. -/
def ofRow (method : Handle) (index : Nat) (row : VmVariable) : HostM VariableEntry := do
  let name ← Buffer.ofText (.variableName method index) row.name
  let signature ← Buffer.ofText (.variableSignature method index) row.signature
  let generic ← Buffer.ofText (.variableGeneric method index) row.generic
  pure { name, start := row.start, length := row.length, slot := row.slot, signature, generic }

/-- Hands out rows, the first of which has this index. -/
def ofRows (method : Handle) : Nat → List VmVariable → HostM (List VariableEntry)
  | _, [] => pure []
  | index, row :: rows => do
    let entry ← ofRow method index row
    let entries ← ofRows method (index + 1) rows
    pure (entry :: entries)

/-- Gives back the texts of a row. -/
def release (entry : VariableEntry) : HostM Unit := do
  entry.name.release
  entry.signature.release
  entry.generic.release

/-- Gives back the texts of rows. -/
def releaseAll : List VariableEntry → HostM Unit
  | [] => pure ()
  | entry :: entries => do
    entry.release
    releaseAll entries

/-- A row as it reads. -/
def row (entry : VariableEntry) : LocalRow :=
  ⟨entry.name.contents, entry.start, entry.length, entry.slot, entry.signature.contents⟩

/-- The name and the code of a row. -/
def scope (entry : VariableEntry) : Scope := ⟨entry.name.contents, entry.start, entry.length⟩

end VariableEntry

/-- A local variable table. -/
abbrev VariableTable := Buffer (List VariableEntry)

namespace VariableTable

/-- Hands out a local variable table.  The texts of all rows are handed out before the table, also
of rows that are not reported. -/
def ofTable (method : Handle) (table : Table VmVariable) : HostM VariableTable := do
  if table.null then
    pure ⟨none, []⟩
  else
    let entries ← VariableEntry.ofRows method 0 table.rows
    Buffer.ofTable (.locals method) { rows := entries, count := table.count }

/-- Gives back the texts of the reported rows and then the table. -/
def release (table : VariableTable) : HostM Unit := do
  VariableEntry.releaseAll table.contents
  Buffer.release table

/-- A local variable table as a held value. -/
def held (table : VariableTable) : Held HostM (List VariableEntry) :=
  ⟨table.contents, release table⟩

end VariableTable
end ClosureSpan
