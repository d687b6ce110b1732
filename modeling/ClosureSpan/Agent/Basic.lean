import ClosureSpan.Diagnostics.Filter
import ClosureSpan.Session.Script

/-!
# The agent

Within the life of its process an agent settles three things once: its options, its resolver, and
the filter on its diagnostics.  The language that filters are written in comes with the agent, and
may be any.

## Main definitions

* `Agent` — what is settled.
* `Agent.listen`, `Agent.install`, `Agent.currentOptions`, `Agent.currentResolver` — settle it.
-/

namespace ClosureSpan

/-- What an agent has settled. -/
structure Agent where
  /-- The options, once they are settled. -/
  options : Option Options := none
  /-- The resolver, once it is made. -/
  resolver : Option Resolver := none
  /-- Whether the filter on diagnostics is settled. -/
  filtered : Bool := false
  /-- The language of the texts of filters. -/
  filterLanguage : FilterLanguage := Filter.plain
  /-- The filter that the surroundings of the agent ask for. -/
  surroundingFilter : Option String := none
  /-- The session of a script that runs beside the agent. -/
  session : Session

/-- What is done with an agent and its machine. -/
abbrev AgentM := StateT Agent HostM

namespace Agent

/-- Settles the filter on diagnostics, unless it is settled.  Before that nobody listens. -/
def listen (directive : Option String) : AgentM Unit := do
  let agent ← get
  if !agent.filtered then
    let verbosity := agent.filterLanguage.choose directive agent.surroundingFilter
    set { agent with filtered := true }
    modifyThe Host fun host => { host with verbosity }

/-- Settles the options, unless they are settled, and tells whether it did. -/
def install (options : Options) : AgentM Bool := do
  let agent ← get
  if agent.options.isSome then
    pure false
  else
    set { agent with options := some options }
    pure true

/-- The options of the agent.  If none are settled, the defaults are from now on. -/
def currentOptions : AgentM Options := do
  let agent ← get
  let options := agent.options.getD {}
  set { agent with options := some options }
  pure options

/-- The resolver of the agent, which is made from its options. -/
def currentResolver : AgentM Resolver := do
  match (← get).resolver with
  | some resolver => pure resolver
  | none =>
    let resolver := Resolver.ofOptions (← currentOptions)
    modify fun agent => { agent with resolver := some resolver }
    pure resolver

end Agent
end ClosureSpan
