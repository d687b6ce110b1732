import ClosureSpan.Agent.Basic

/-!
# The hooks of the agent

The machine calls the agent when it loads it, when it unloads it, and when a class is to be
resolved.  No hook fails loudly: a load hook answers with a code, and a class that cannot be
resolved has no result object.

## Main definitions

* `Agent.load`, `Agent.start`, `Agent.unload` — the hooks around the life of the agent.
* `Agent.resolve` — the hook that resolves a class.
-/

namespace ClosureSpan

/-- A hook that starts the agent. -/
inductive StartHook where
  /-- The machine starts with the agent. -/
  | load
  /-- The agent is attached to a running machine. -/
  | attach
  deriving Repr, DecidableEq

/-- The exported name of the hook. -/
def StartHook.name : StartHook → String
  | load => "Agent_OnLoad"
  | attach => "Agent_OnAttach"

namespace Agent

/-! ### Loading and unloading -/

/-- The code of a hook that succeeded. -/
def accepted : Int := 0

/-- The code of a hook that failed. -/
def rejected : Int := -1

/-- The version of the native interface that the agent wants. -/
def nativeVersion : Int := 0x00010006

/-- The library is loaded. -/
def load : AgentM Int := do
  listen none
  Host.report { level := .debug, message := "library loaded" }
  pure nativeVersion

/-- An event about a start hook. -/
def hookEvent (level : Level) (message : String) (hook : StartHook) : Event where
  level := level
  message := message
  fields := [("hook", .quoted hook.name)]

/-- A start hook refuses its options. -/
def refuse (hook : StartHook) (message : String) : AgentM Int := do
  listen none
  Host.report (hookEvent .error message hook)
  pure rejected

/-- The text of options in standard UTF-8.  No options at all are an empty text. -/
def optionsText? : Option Bytes → Option String
  | none => some ""
  | some bytes => String.fromUTF8? ⟨bytes.toArray⟩

/-- The agent is started with options.  The machine is left alone: what to ask it for is decided
when the first class is resolved. -/
def start (hook : StartHook) (bytes : Option Bytes) : AgentM Int := do
  match optionsText? bytes with
  | none => refuse hook "agent options are not valid UTF-8"
  | some text =>
    match Options.parse text with
    | .error error => refuse hook ("invalid agent options: " ++ error.message)
    | .ok options =>
      listen options.log
      if !(← install options) then
        Host.report (hookEvent .warn "agent options already installed; ignoring" hook)
      Host.report (hookEvent .info "agent started" hook)
      pure accepted

/-- The agent is unloaded. -/
def unload : AgentM Unit := Host.report { level := .info, message := "agent unloaded" }

/-! ### Resolving -/

/-- What is reported on a class that has no result object.  That a class has no entry method is no
cause for alarm. -/
def failureEvent : ResolveError → Event
  | .noResolvableMethod entry =>
    { level := .debug, message := (ResolveError.noResolvableMethod entry).message }
  | error => { level := .warn, message := "lambda location unavailable: " ++ error.message }

/-- The result object for a class.  No exception is left pending.  Without an environment or without
a class nothing is done. -/
def resolve (environment : Bool) (owner : Handle) : AgentM (Option Handle) := do
  if !environment || owner = 0 then
    pure none
  else
    let resolver ← currentResolver
    let (outcome, resolver) ← resolver.resolveClass owner
    modify fun agent => { agent with resolver := some resolver }
    let _ ← Native.clearPendingException
    match outcome with
    | .ok object => pure (some object)
    | .error error =>
      Host.report (failureEvent error)
      pure none

end Agent
end ClosureSpan
