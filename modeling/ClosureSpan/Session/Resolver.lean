import ClosureSpan.Options
import ClosureSpan.Session.Binding
import ClosureSpan.Session.Negotiation

/-!
# Resolvers

A resolver answers for one class after the other.  It negotiates with the machine and binds the
result class the first time each is needed, and remembers both outcomes.

## Main definitions

* `Resolver` — what the answers share.
* `Resolver.resolveClass` — the result object for a class.
-/

namespace ClosureSpan

/-- What the answers for several classes share. -/
structure Resolver where
  /-- The negotiated environment. -/
  capability : Latch Environment := .fresh
  /-- The result class. -/
  binder : Binder
  /-- The name of the entry method. -/
  entryMethod : String
  deriving Repr, DecidableEq

namespace Resolver

/-- A resolver that has done nothing yet. -/
def ofOptions (options : Options) : Resolver where
  binder := { className := options.resultClass }
  entryMethod := options.entryMethod

/-- The resolver after it has tried to obtain an environment. -/
def acquire (resolver : Resolver) (reachable : Bool) : HostM Resolver := do
  pure { resolver with capability := ← resolver.capability.settle (negotiate reachable) }

/-- The resolver after it has tried to bind its result class. -/
def bind (resolver : Resolver) : HostM Resolver := do
  pure { resolver with binder := ← resolver.binder.bind }

/-- The result object for a class, once environment and result class are there. -/
def answer (resolver : Resolver) (binding : Binding) (owner : Handle) :
    ExceptT ResolveError HostM Handle := do
  let location ← Tool.introspector.resolve resolver.entryMethod owner
  match ← binding.construct location with
  | none => throw .resultConstruction
  | some object => pure object

/-- The result object for a class, and the resolver afterwards.  The machine is asked for on every
call, but what was settled before is not tried again. -/
def resolveClass (resolver : Resolver) (owner : Handle) :
    HostM (Except ResolveError Handle × Resolver) := do
  let reachable ← Native.javaVm
  let resolver ← resolver.acquire reachable
  match resolver.capability.get? with
  | none => pure (.error .capabilityUnavailable, resolver)
  | some _ =>
    let resolver ← resolver.bind
    match resolver.binder.binding.get? with
    | none => pure (.error .bindingUnavailable, resolver)
    | some binding => pure (← (resolver.answer binding owner).run, resolver)

end Resolver
end ClosureSpan
