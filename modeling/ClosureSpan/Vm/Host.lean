import ClosureSpan.Diagnostics.Event
import ClosureSpan.Vm.Behaviour

/-!
# A running machine

While a program talks to a machine, the machine has memory that the program has not given back, and
perhaps a pending exception.  Each call is entered in a journal together with the state in which it
was made, and so it can be said afterwards what the program held, and whether it called while an
exception was pending.

## Main definitions

* `Label`, `Allocation` — memory that was handed out.
* `Call`, `Entry` — a call and the state in which it was made.
* `Host` — a running machine; `HostM` — what is done with it.
* `Host.allocate`, `Host.deallocate` — memory is handed out and given back.
-/

namespace ClosureSpan

/-! ### Memory -/

/-- What a piece of memory holds. -/
inductive Label where
  /-- The methods of a class. -/
  | methods (owner : Handle)
  /-- The name of a method. -/
  | name (method : Handle)
  /-- The local variable table of a method. -/
  | locals (method : Handle)
  /-- The name in a row of a local variable table. -/
  | variableName (method : Handle) (row : Nat)
  /-- The type in a row of a local variable table. -/
  | variableSignature (method : Handle) (row : Nat)
  /-- The generic type in a row of a local variable table. -/
  | variableGeneric (method : Handle) (row : Nat)
  /-- The line table of a method. -/
  | lines (method : Handle)
  /-- The source file of a class. -/
  | sourceFile (owner : Handle)
  /-- The name of a status. -/
  | errorName (status : Status)
  deriving Repr, DecidableEq

/-- The text of a label. -/
def Label.text : Label → String
  | methods owner => "methods:" ++ toString owner
  | name method => "name:" ++ toString method
  | locals method => "vars:" ++ toString method
  | variableName method row => "vars:" ++ toString method ++ "[" ++ toString row ++ "].name"
  | variableSignature method row =>
    "vars:" ++ toString method ++ "[" ++ toString row ++ "].signature"
  | variableGeneric method row => "vars:" ++ toString method ++ "[" ++ toString row ++ "].generic"
  | lines method => "lines:" ++ toString method
  | sourceFile owner => "source:" ++ toString owner
  | errorName status => "error:" ++ toString status

/-- A piece of memory: what it holds, and how many pieces were handed out for the same before it.
No two pieces are equal. -/
structure Allocation where
  /-- What the memory holds. -/
  label : Label
  /-- How many earlier pieces held the same. -/
  serial : Nat
  deriving Repr, DecidableEq

/-! ### Calls -/

/-- A call of a function of the machine, of its tool interface or of its native interface. -/
inductive Call where
  /-- Asks the native interface for the machine. -/
  | getJavaVm
  /-- Asks the machine for a tool environment of this version. -/
  | getEnvironment (version : Nat)
  /-- Asks which capabilities can be asked for. -/
  | getPotentialCapabilities
  /-- Asks for these capabilities. -/
  | addCapabilities (wanted : CapabilitySet)
  /-- Asks which capabilities were granted. -/
  | getCapabilities
  /-- Asks about a class or a method. -/
  | query (query : Query) (subject : Handle)
  /-- Asks for the name of a status. -/
  | getErrorName (status : Status)
  /-- Gives memory back; no label means that it was not out. -/
  | deallocate (label : Option Label)
  /-- Looks a class up. -/
  | findClass (name : Bytes)
  /-- Looks a method up. -/
  | getMethodId (owner : Handle) (name signature : Bytes)
  /-- Makes a string. -/
  | newString (text : Bytes)
  /-- Makes a global reference. -/
  | newGlobalRef (object : Handle)
  /-- Drops a local reference. -/
  | deleteLocalRef (object : Handle)
  /-- Makes an object with a constructor of a string and two numbers. -/
  | newObject (owner constructor text : Handle) (start stop : Int)
  /-- Asks whether an exception is pending. -/
  | exceptionCheck
  /-- Drops the pending exception. -/
  | exceptionClear
  deriving Repr, DecidableEq

/-- A call, and the state of the machine when it was made. -/
structure Entry where
  /-- The call. -/
  call : Call
  /-- The memory that was out, the newest first. -/
  outstanding : List Allocation
  /-- Whether an exception was pending. -/
  pending : Bool
  deriving Repr, DecidableEq

/-! ### The machine -/

/-- A running machine. -/
structure Host where
  /-- What it answers. -/
  vm : Vm
  /-- The capabilities that were asked for. -/
  added : CapabilitySet := 0
  /-- Whether an exception is pending. -/
  pending : Bool := false
  /-- The memory that is out, the newest first. -/
  outstanding : List Allocation := []
  /-- What memory was ever handed out for, the newest first. -/
  issued : List Label := []
  /-- The calls so far, the newest first. -/
  journal : List Entry := []
  /-- The least important level of events that is listened to. -/
  verbosity : Option Level := none
  /-- The events so far, the newest first. -/
  events : List Event := []

/-- What is done with a running machine. -/
abbrev HostM := StateM Host

namespace Host

/-- The calls so far, in order. -/
def calls (host : Host) : List Call := host.journal.reverse.map Entry.call

/-- The events so far, in order. -/
def told (host : Host) : List Event := host.events.reverse

/-- The memory that is out, in the order in which it was handed out. -/
def unreleased (host : Host) : List Label := host.outstanding.reverse.map Allocation.label

/-- Enters a call in the journal. -/
def record (call : Call) : HostM Unit := modify fun host =>
  { host with journal := ⟨call, host.outstanding, host.pending⟩ :: host.journal }

/-- Hands out memory. -/
def allocate (label : Label) : HostM Allocation := modifyGet fun host =>
  let allocation : Allocation := ⟨label, host.issued.count label⟩
  (allocation, { host with
    outstanding := allocation :: host.outstanding, issued := label :: host.issued })

/-- Gives memory back.  Without the function for it nothing is called; and if the function fails,
the memory stays out. -/
def deallocate (allocation : Allocation) : HostM Unit := do
  let host ← get
  if .deallocate ∈ host.vm.missing then
    pure ()
  else
    record (.deallocate (if allocation ∈ host.outstanding then some allocation.label else none))
    if host.vm.statusOf .deallocate = Status.success then
      modify fun host => { host with outstanding := host.outstanding.erase allocation }

/-- Makes an exception pending, or none. -/
def setPending (pending : Bool) : HostM Unit := modify fun host => { host with pending }

/-- Tells an event to whoever listens at its level. -/
def report (event : Event) : HostM Unit := modify fun host =>
  if event.level.admittedBy host.verbosity then { host with events := event :: host.events }
  else host

/-- Makes an event and tells it, if anyone listens at the level.  Making it may call the machine. -/
def reportFrom (level : Level) (make : HostM Event) : HostM Unit := do
  if level.admittedBy (← get).verbosity then report (← make)

/-! ### What the primitives do -/

@[simp] theorem run_record (call : Call) (host : Host) :
    (record call).run host =
      ((), { host with journal := ⟨call, host.outstanding, host.pending⟩ :: host.journal }) := rfl

@[simp] theorem run_allocate (label : Label) (host : Host) :
    (allocate label).run host =
      (⟨label, host.issued.count label⟩, { host with
        outstanding := ⟨label, host.issued.count label⟩ :: host.outstanding
        issued := label :: host.issued }) := rfl

@[simp] theorem run_setPending (pending : Bool) (host : Host) :
    (setPending pending).run host = ((), { host with pending }) := rfl

/-- An event changes nothing but what was told. -/
theorem run_report (event : Event) (host : Host) :
    (report event).run host =
      ((), { host with
        events := if event.level.admittedBy host.verbosity then event :: host.events
          else host.events }) := by
  change ((), if event.level.admittedBy host.verbosity then
    { host with events := event :: host.events } else host) = _
  split <;> rfl

end Host
end ClosureSpan
