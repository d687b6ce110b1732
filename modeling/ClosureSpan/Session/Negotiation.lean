import ClosureSpan.Latch
import ClosureSpan.Vm.ToolInterface

/-!
# Negotiating with a machine

Before line tables can be read, the machine has to grant the capability to read them.  Everything
that can be asked for is asked for, and what counts is what the machine then reports as granted.

## Main definitions

* `Environment` — a tool environment that may read line tables.
* `negotiate` — obtains one, or warns why there is none.
-/

namespace ClosureSpan

/-- A tool environment that may read line tables. -/
structure Environment where
  /-- The capabilities that were granted. -/
  capabilities : CapabilitySet
  deriving Repr, DecidableEq

namespace Negotiation

/-- A warning without further values. -/
def warning (message : String) : Event := { level := .warn, message }

/-- The warning that the machine gave no tool environment. -/
def noEnvironment (code : Int) : Event where
  level := .warn
  message := "GetEnv(JVMTI_VERSION_1_2) failed"
  fields := [("code", .number code)]

/-- Warns that a function failed.  The name of the status is asked for only if someone listens. -/
def warnFailed (function : String) (status : Status) : HostM Unit :=
  Host.reportFrom .warn do
    let name ← Tool.errorName status
    pure { level := .warn, message := function ++ " failed", fields := [("error", .plain name)] }

/-- What is reported on an environment that was obtained. -/
def negotiated (granted : CapabilitySet) : Event where
  level := .debug
  message := "JVMTI capabilities negotiated"
  fields := [
    ("source_file_name", .flag (granted.has CapabilitySet.sourceFileNameBit)),
    ("local_variables", .flag (granted.has CapabilitySet.localVariablesBit))]

/-- A step of the negotiation.  Its failure is warned of and ends the negotiation. -/
def attempt {α : Type} (function : String) (step : ToolM α) : OptionT HostM α := OptionT.mk do
  match ← step.run with
  | .ok value => pure (some value)
  | .error status =>
    warnFailed function status
    pure none

/-- Opens a tool environment.  A failure is warned of and ends the negotiation. -/
def openEnvironment : OptionT HostM Unit := OptionT.mk do
  match ← Tool.openEnvironment.run with
  | .ok () => pure (some ())
  | .error code =>
    Host.report (noEnvironment code)
    pure none

/-- Accepts what was granted, if line tables are among it. -/
def accept (granted : CapabilitySet) : OptionT HostM Environment := OptionT.mk do
  if granted.has CapabilitySet.lineNumbersBit then
    Host.report (negotiated granted)
    pure (some ⟨granted⟩)
  else
    Host.report (warning "VM does not grant can_get_line_numbers")
    pure none

end Negotiation

/-- Obtains an environment from the machine, if there is one. -/
def negotiate (reachable : Bool) : HostM (Option Environment) :=
  if reachable then OptionT.run do
    Negotiation.openEnvironment
    let potential ← Negotiation.attempt "GetPotentialCapabilities" Tool.potentialCapabilities
    Negotiation.attempt "AddCapabilities" (Tool.addCapabilities potential)
    let granted ← Negotiation.attempt "GetCapabilities" Tool.capabilities
    Negotiation.accept granted
  else do
    Host.report (Negotiation.warning "no JavaVM available; line numbers disabled")
    pure none

end ClosureSpan
