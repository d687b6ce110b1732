import ClosureSpan.Agent.Hooks

/-!
# Scripts of an agent

What happens to an agent, step by step: its hooks are called, what it has settled is looked at, and
steps of an ordinary script are taken beside it.

## Main definitions

* `AgentStep`, `AgentAnswer` — what can happen, and what it gives.
* `Agent.run`, `Agent.runAll` — take a step, and all steps of a script.
-/

namespace ClosureSpan

/-- What happens to an agent. -/
inductive AgentStep where
  /-- A step of an ordinary script. -/
  | script (step : Step)
  /-- The library is loaded. -/
  | load
  /-- The agent is started. -/
  | start (hook : StartHook) (options : Option Bytes)
  /-- The agent is unloaded. -/
  | unload
  /-- A class is resolved. -/
  | resolve (environment : Bool) (owner : Handle)
  /-- The filter on diagnostics is settled. -/
  | listen (directive : Option String)
  /-- Options are parsed and installed. -/
  | install (text : String)
  /-- The options are looked at. -/
  | options
  /-- The resolver is looked at. -/
  | resolver

/-- What a step gives. -/
inductive AgentAnswer where
  /-- The answer of a step of an ordinary script. -/
  | script (answer : Answer)
  /-- Nothing. -/
  | done
  /-- The code of a hook. -/
  | code (code : Int)
  /-- A result object, if there is one. -/
  | object (object : Option Handle)
  /-- A truth value. -/
  | flag (value : Bool)
  /-- Options that are not acceptable. -/
  | optionsError (error : OptionsError)
  /-- The options. -/
  | options (options : Options)
  /-- The resolver. -/
  | resolver (resolver : Resolver)
  deriving DecidableEq

namespace Agent

/-- Takes a step of an ordinary script. -/
def runScript (step : Step) : AgentM Answer := do
  let agent ← get
  let (answer, session) ← (Session.run step).run agent.session
  set { agent with session }
  pure answer

/-- Takes a step. -/
def run : AgentStep → AgentM AgentAnswer
  | .script step => do pure (.script (← runScript step))
  | .load => do pure (.code (← load))
  | .start hook options => do pure (.code (← start hook options))
  | .unload => do
    unload
    pure .done
  | .resolve environment owner => do pure (.object (← resolve environment owner))
  | .listen directive => do
    listen directive
    pure .done
  | .install text => do
    match Options.parse text with
    | .error error => pure (.optionsError error)
    | .ok options => pure (.flag (← install options))
  | .options => do pure (.options (← currentOptions))
  | .resolver => do pure (.resolver (← currentResolver))

/-- Takes all steps of a script. -/
def runAll (steps : List AgentStep) : AgentM (List AgentAnswer) := steps.mapM run

end Agent
end ClosureSpan
