import ClosureSpan.Introspector
import ClosureSpan.Vm.Buffer

/-!
# The tool interface

The functions through which a tool asks a machine about its classes.  Each answers with a status,
and what it hands out stays out until it is given back.

## Main definitions

* `Tool.call` — the rules that all of these functions share.
* `Tool.openEnvironment` and the capability functions.
* `Tool.methods`, … `Tool.sourceFile` — the six questions.
* `Tool.errorName` — the name of a status, in the words of the machine.
* `Tool.introspector` — a machine as a source of method metadata.
-/

namespace ClosureSpan

/-- A use of the tool interface, which succeeds or fails with a status. -/
abbrev ToolM (α : Type) := ExceptT Status HostM α

namespace Tool

variable {α : Type}

/-- Calls a function of the tool interface.  A function that is not there is not called and counts
as not available.  A status that the machine has for the function comes before its answer. -/
def call (function : ToolFunction) (entry : Call) (answer : Vm → ToolM α) : ToolM α := do
  let vm := (← getThe Host).vm
  if function ∈ vm.missing then throw Status.notAvailable
  Host.record entry
  if vm.statusOf function = Status.success then answer vm else throw (vm.statusOf function)

/-! ### Environment and capabilities -/

/-- The version of the tool interface that is asked for. -/
def version : Nat := 0x30010200

/-- Asks a machine for a tool environment; a failure gives the result code, and a null environment
counts as a general failure. -/
def openEnvironment : ExceptT Int HostM Unit := do
  let vm := (← getThe Host).vm
  Host.record (.getEnvironment version)
  if vm.environmentResult ≠ 0 then throw vm.environmentResult
  if vm.nullEnvironment then throw (-1)

/-- The capabilities that can be asked for. -/
def potentialCapabilities : ToolM CapabilitySet :=
  call .getPotentialCapabilities .getPotentialCapabilities fun vm => pure vm.potential

/-- Asks for capabilities, in addition to those asked for before. -/
def addCapabilities (wanted : CapabilitySet) : ToolM Unit :=
  call .addCapabilities (.addCapabilities wanted) fun _ =>
    modifyThe Host fun host => { host with added := host.added ||| wanted }

/-- The capabilities that were granted. -/
def capabilities : ToolM CapabilitySet :=
  call .getCapabilities .getCapabilities fun vm => do
    pure (vm.granted.getD (← getThe Host).added)

/-! ### The six questions -/

/-- Asks about a class. -/
def askClass (query : Query) (owner : Handle) (answer : VmClass → ToolM α) : ToolM α :=
  call (.query query) (.query query owner) fun vm =>
    match vm.class? owner with
    | none => throw Status.invalidClass
    | some entry => answer entry

/-- Asks about a method.  A status that the machine has for this method comes before the answer. -/
def askMethod (query : Query) (method : Handle) (answer : VmMethod → ToolM α) : ToolM α :=
  call (.query query) (.query query method) fun vm =>
    match vm.method? method with
    | none => throw Status.invalidMethod
    | some entry =>
      if entry.statusOf query = Status.success then answer entry
      else throw (entry.statusOf query)

/-- Information that a class or method may lack. -/
def present : Option α → ToolM α
  | some value => pure value
  | none => throw Status.absentInformation

/-- The methods of a class. -/
def methods (owner : Handle) : ToolM (Held HostM (List Handle)) :=
  askClass .methods owner fun entry => do
    let buffer ← Buffer.ofTable (.methods owner) entry.methods
    pure (buffer.held.map (List.map VmMethod.id))

/-- The modifier bits of a method. -/
def modifiers (method : Handle) : ToolM Int :=
  askMethod .modifiers method fun entry => pure entry.modifiers

/-- The name of a method. -/
def name (method : Handle) : ToolM (Held HostM Bytes) :=
  askMethod .name method fun entry => do
    let buffer ← Buffer.ofText (.name method) entry.name
    pure buffer.held

/-- The local variable table of a method. -/
def locals (method : Handle) : ToolM (Held HostM (List VariableEntry)) :=
  askMethod .locals method fun entry => do
    let table ← VariableTable.ofTable method (← present entry.locals)
    pure (VariableTable.held table)

/-- The line table of a method. -/
def lines (method : Handle) : ToolM (Held HostM (List LineRow)) :=
  askMethod .lines method fun entry => do
    let buffer ← Buffer.ofTable (.lines method) (← present entry.lines)
    pure buffer.held

/-- The source file of a class. -/
def sourceFile (owner : Handle) : ToolM (Held HostM Bytes) :=
  askClass .sourceFile owner fun entry => do
    let buffer ← Buffer.ofText (.sourceFile owner) (← present entry.sourceFile)
    pure buffer.held

/-! ### Names of statuses -/

/-- The name of a status, handed out by the machine. -/
def errorNameBuffer (status : Status) : ToolM (Held HostM Bytes) :=
  call .getErrorName (.getErrorName status) fun vm =>
    match vm.errorNames.lookup status with
    | none => throw Status.illegalArgument
    | some text => do
      let buffer ← Buffer.ofText (.errorName status) text
      pure buffer.held

/-- The name of a status, in the words of the machine if it has some. -/
def errorName (status : Status) : HostM String := do
  match ← (Held.use (errorNameBuffer status) fun name => pure (ModifiedUtf8.decode name)).run with
  | .ok text => pure text
  | .error _ => pure (Status.text status)

/-! ### A machine as an introspector -/

/-- A question whose failure is read as the failure of that question. -/
def asked (query : Query) (answer : ToolM α) : ExceptT QueryError HostM α :=
  answer.adapt (QueryError.ofStatus query)

/-- A machine as a source of method metadata. -/
def introspector : Introspector HostM Handle Handle where
  methods owner := asked .methods (methods owner)
  modifiers method := asked .modifiers (modifiers method)
  name method := asked .name (name method)
  locals method :=
    asked .locals (Held.map (List.map VariableEntry.scope) <$> locals method)
  lines method := asked .lines (lines method)
  sourceFile owner := asked .sourceFile (sourceFile owner)
  report := Host.report

end Tool
end ClosureSpan
