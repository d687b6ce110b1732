import ClosureSpan.Query
import ClosureSpan.Span
import ClosureSpan.Vm.Capabilities

/-!
# What a virtual machine answers

A machine is known by its answers.  They may be inconsistent: statuses, counts, null pointers and
missing functions are set independently of the data, so that each can go wrong on its own.

## Main definitions

* `ToolFunction` — the functions of the tool interface that are called here.
* `Table`, `VmMethod`, `VmClass` — the data that the machine serves.
* `Vm` — all of its answers.
-/

namespace ClosureSpan

/-- What the machine hands out for a class, a method or an object; zero is null. -/
abbrev Handle := Nat

/-- A handle that is not null. -/
def Handle.nonNull? (handle : Handle) : Option Handle := if handle = 0 then none else some handle

/-- A function of the tool interface. -/
inductive ToolFunction where
  /-- Takes back memory. -/
  | deallocate
  /-- Tells the name of a status. -/
  | getErrorName
  /-- Tells which capabilities can be asked for. -/
  | getPotentialCapabilities
  /-- Asks for capabilities. -/
  | addCapabilities
  /-- Tells which capabilities were granted. -/
  | getCapabilities
  /-- Answers a question about classes and methods. -/
  | query (query : Query)
  deriving Repr, DecidableEq

/-- A table as the machine hands it out: rows, and what is claimed about them. -/
structure Table (ρ : Type) where
  /-- The rows that are there. -/
  rows : List ρ
  /-- The reported number of rows, if it is not the true one. -/
  count : Option Int := none
  /-- Whether a null pointer is handed out instead of the rows. -/
  null : Bool := false
  deriving Repr, DecidableEq

/-- The rows that a reader of the table can see: none behind a null pointer, and no more than are
reported, where a negative report means none. -/
def Table.visible {ρ : Type} (table : Table ρ) : List ρ :=
  if table.null then [] else table.rows.take (table.count.getD table.rows.length).toNat

/-- A row of a local variable table; its texts may be null pointers. -/
structure VmVariable where
  /-- The name. -/
  name : Option Bytes
  /-- The first code location where the variable is visible. -/
  start : Int
  /-- The number of code locations where it is visible. -/
  length : Int
  /-- The local variable slot that holds it. -/
  slot : Int := 0
  /-- The descriptor of its type. -/
  signature : Option Bytes := none
  /-- The descriptor of its generic type. -/
  generic : Option Bytes := none
  deriving Repr, DecidableEq

/-- A method. -/
structure VmMethod where
  /-- The handle. -/
  id : Handle
  /-- The modifier bits. -/
  modifiers : Int
  /-- The name. -/
  name : Option Bytes
  /-- The local variable table, if the method has one. -/
  locals : Option (Table VmVariable) := none
  /-- The line table, if the method has one. -/
  lines : Option (Table LineRow) := none
  /-- The statuses that questions about this method are answered with. -/
  status : List (Query × Status) := []
  deriving Repr, DecidableEq

/-- A class. -/
structure VmClass where
  /-- The handle. -/
  id : Handle
  /-- The methods. -/
  methods : Table VmMethod
  /-- The source file, if the class names one. -/
  sourceFile : Option (Option Bytes) := none
  deriving Repr, DecidableEq

/-- The handles that the native interface answers with. -/
structure Handles where
  /-- A class that was looked up by name. -/
  foundClass : Handle := 256
  /-- A method that was looked up by name and type. -/
  foundMethod : Handle := 768
  /-- A global reference. -/
  globalRef : Handle := 512
  /-- A new string. -/
  newString : Handle := 1024
  /-- A new object. -/
  newObject : Handle := 1280
  deriving Repr, DecidableEq

/-- The answers of a virtual machine. -/
structure Vm where
  /-- The classes that it serves. -/
  classes : List VmClass := []
  /-- The statuses that functions of the tool interface answer with. -/
  status : List (ToolFunction × Status) := []
  /-- The result of asking the native interface for the machine; zero is success. -/
  machineResult : Int := 0
  /-- The result of asking the machine for a tool environment; zero is success. -/
  environmentResult : Int := 0
  /-- The functions of the tool interface that are not there. -/
  missing : List ToolFunction := []
  /-- The capabilities that can be asked for. -/
  potential : CapabilitySet := CapabilitySet.ofBits [11, 12, 14]
  /-- The capabilities that are reported as granted, if not those that were asked for. -/
  granted : Option CapabilitySet := none
  /-- Whether the machine is a null pointer. -/
  nullMachine : Bool := false
  /-- Whether the tool environment is a null pointer. -/
  nullEnvironment : Bool := false
  /-- The names of statuses. -/
  errorNames : List (Status × Option Bytes) := []
  /-- The handles that the native interface answers with. -/
  handles : Handles := {}
  /-- Whether a null handle comes with an exception. -/
  throws : Bool := true
  /-- The byte that says that an exception is pending. -/
  trueByte : UInt8 := 1

namespace Vm

/-- The status that a function of the tool interface answers before anything else. -/
def statusOf (vm : Vm) (function : ToolFunction) : Status :=
  (vm.status.lookup function).getD Status.success

/-- The class of a handle. -/
def class? (vm : Vm) (owner : Handle) : Option VmClass :=
  vm.classes.find? fun entry => entry.id = owner

/-- The method of a handle, in whatever class it is declared. -/
def method? (vm : Vm) (method : Handle) : Option VmMethod :=
  (vm.classes.flatMap fun entry => entry.methods.rows).find? fun entry => entry.id = method

end Vm

/-- The status that a question about the method is answered with. -/
def VmMethod.statusOf (method : VmMethod) (query : Query) : Status :=
  (method.status.lookup query).getD Status.success

end ClosureSpan
