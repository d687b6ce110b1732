import ClosureSpan.Proofs.Session.Staging

/-!
# Visits

A visit is one call of a resolver: it finds the resolver as earlier visits left it, and a machine.
It comes as far as the stages succeed, and makes the calls of no stage beyond.

## Main definitions

* `Visit` — a call of a resolver for a class, with its answer and its calls.
* `Visit.negotiation`, `Visit.binding`, `Visit.inspection`, `Visit.construction` — what comes out
  of the stages.
* `Visit.Course` — how far a visit comes.

## Main results

* `Visit.course` — **a visit ends with the first stage that fails.**
* `Visit.ran_negotiation`, … `Visit.ran_construction` — **the calls and outcomes of the stages.**
-/

namespace ClosureSpan

/-! ### Answers -/

namespace Resolver

variable {resolver : Resolver} {binding : Binding} {owner : Handle} {host : Host}

/-- Without a location nothing is made. -/
theorem run_answer_of_error {e : ResolveError}
    (h : ((Tool.introspector.resolve resolver.entryMethod owner).run.run host).1 = .error e) :
    (resolver.answer binding owner).run.run host =
      (.error e, ((Tool.introspector.resolve resolver.entryMethod owner).run.run host).2) := by
  unfold answer
  rw [ExceptT.run_bind, StateT.run_bind]
  generalize (Tool.introspector.resolve resolver.entryMethod owner).run.run host = run at h ⊢
  obtain ⟨outcome, host'⟩ := run
  cases h
  rfl

/-- The answer for a location is the object that is made for it. -/
theorem run_answer_of_ok {location : Location}
    (h : ((Tool.introspector.resolve resolver.entryMethod owner).run.run host).1 = .ok location) :
    (resolver.answer binding owner).run.run host =
      (((binding.construct location).run
          ((Tool.introspector.resolve resolver.entryMethod owner).run.run host).2).1.elim
        (.error .resultConstruction) .ok,
      ((binding.construct location).run
          ((Tool.introspector.resolve resolver.entryMethod owner).run.run host).2).2) := by
  unfold answer
  rw [ExceptT.run_bind, StateT.run_bind]
  generalize (Tool.introspector.resolve resolver.entryMethod owner).run.run host = run at h ⊢
  obtain ⟨outcome, host'⟩ := run
  cases h
  change StateT.run (ExceptT.run (ExceptT.lift (binding.construct location) >>= _)) host' = _
  rw [ExceptT.run_bind_lift, StateT.run_bind]
  obtain ⟨made?, host''⟩ := (binding.construct location).run host'
  cases made? with
  | none => rfl
  | some object => rfl

end Resolver

/-! ### Visits -/

/-- A call of a resolver for a class. -/
structure Visit where
  /-- The resolver, as the visit finds it. -/
  resolver : Resolver
  /-- The machine, as the visit finds it. -/
  machine : Host
  /-- The class. -/
  owner : Handle

namespace Visit

variable (visit : Visit)

/-- The machine, where only the calls of this visit will be entered. -/
def start : Host := { visit.machine with journal := [] }

/-- The visit: its answer, the resolver it leaves, and the machine it leaves. -/
def run : (Except ResolveError Handle × Resolver) × Host :=
  (visit.resolver.resolveClass visit.owner).run visit.start

/-- The answer of the visit. -/
def answer : Except ResolveError Handle := visit.run.1.1

/-- The resolver after the visit. -/
def after : Resolver := visit.run.1.2

/-- The calls of the visit, in order. -/
def calls : List Call := visit.run.2.calls

/-- The calls of the visit that belong to a stage. -/
def callsIn (stage : Stage) : List Call := stage.select visit.calls

/-! ### The stages of a visit -/

/-- Whether the machine can be reached. -/
def reachable : Bool := (Native.javaVm.run visit.start).1

/-- The machine once it was asked for. -/
def asked : Host := (Native.javaVm.run visit.start).2

/-- The environment that is settled on, and the machine then. -/
def negotiation : Latch Environment × Host :=
  (visit.resolver.capability.settle (negotiate visit.reachable)).run visit.asked

/-- The result class that is settled on, and the machine then. -/
def binding : Latch Binding × Host :=
  (visit.resolver.binder.binding.settle
    (Binding.lookUp visit.resolver.binder.className)).run visit.negotiation.2

/-- The location that is found, and the machine then. -/
def inspection : Except ResolveError Location × Host :=
  (Tool.introspector.resolve visit.resolver.entryMethod visit.owner).run.run visit.binding.2

/-- The object that is made, and the machine then. -/
def construction (binding : Binding) (location : Location) : Option Handle × Host :=
  (binding.construct location).run visit.inspection.2

/-- The resolver with its environment settled. -/
def acquired : Resolver := { visit.resolver with capability := visit.negotiation.1 }

/-- The resolver with environment and result class settled. -/
def bound : Resolver :=
  { visit.acquired with binder := { visit.resolver.binder with binding := visit.binding.1 } }

/-- A visit goes on once it has settled on an environment. -/
theorem run_eq : visit.run =
    StateT.run (match visit.negotiation.1.get? with
      | none => (pure (.error .capabilityUnavailable, visit.acquired) :
          HostM (Except ResolveError Handle × Resolver))
      | some _ => do
        let resolver ← visit.acquired.bind
        match resolver.binder.binding.get? with
        | none => pure (.error .bindingUnavailable, resolver)
        | some binding => pure (← (resolver.answer binding visit.owner).run, resolver))
      visit.negotiation.2 := rfl

/-- And it goes on once it has settled on a result class. -/
theorem run_eq_of_environment {environment : Environment}
    (h : visit.negotiation.1.get? = some environment) : visit.run =
    StateT.run (match visit.binding.1.get? with
      | none => (pure (.error .bindingUnavailable, visit.bound) :
          HostM (Except ResolveError Handle × Resolver))
      | some binding => do pure (← (visit.bound.answer binding visit.owner).run, visit.bound))
      visit.binding.2 := by
  rw [run_eq, h]
  rfl

/-- Then it depends on the location and the object. -/
theorem run_eq_of_binding {environment : Environment} {binding : Binding}
    (hnegotiation : visit.negotiation.1.get? = some environment)
    (hbinding : visit.binding.1.get? = some binding) : visit.run =
    ((((visit.resolver.answer binding visit.owner).run.run visit.binding.2).1, visit.bound),
      ((visit.resolver.answer binding visit.owner).run.run visit.binding.2).2) := by
  rw [run_eq_of_environment visit hnegotiation, hbinding]
  rfl

/-! ### How far a visit comes -/

theorem run_of_refused (hnegotiation : visit.negotiation.1.get? = none) :
    visit.run = ((.error .capabilityUnavailable, visit.acquired), visit.negotiation.2) := by
  rw [run_eq, hnegotiation]
  rfl

theorem run_of_unbound {environment : Environment}
    (hnegotiation : visit.negotiation.1.get? = some environment)
    (hbinding : visit.binding.1.get? = none) :
    visit.run = ((.error .bindingUnavailable, visit.bound), visit.binding.2) := by
  rw [run_eq_of_environment visit hnegotiation, hbinding]
  rfl

theorem run_of_unlocated {environment : Environment} {binding : Binding} {e : ResolveError}
    (hnegotiation : visit.negotiation.1.get? = some environment)
    (hbinding : visit.binding.1.get? = some binding) (hinspection : visit.inspection.1 = .error e) :
    visit.run = ((.error e, visit.bound), visit.inspection.2) := by
  rw [run_eq_of_binding visit hnegotiation hbinding, Resolver.run_answer_of_error hinspection]
  rfl

theorem run_of_located {environment : Environment} {binding : Binding} {location : Location}
    (hnegotiation : visit.negotiation.1.get? = some environment)
    (hbinding : visit.binding.1.get? = some binding)
    (hinspection : visit.inspection.1 = .ok location) :
    visit.run =
      (((visit.construction binding location).1.elim (.error .resultConstruction) .ok, visit.bound),
        (visit.construction binding location).2) := by
  rw [run_eq_of_binding visit hnegotiation hbinding, Resolver.run_answer_of_ok hinspection]
  rfl

/-- How far a visit comes. -/
inductive Course : Prop
  /-- There is no environment. -/
  | refused (hnegotiation : visit.negotiation.1.get? = none)
    (hrun : visit.run = ((.error .capabilityUnavailable, visit.acquired), visit.negotiation.2))
  /-- There is no result class. -/
  | unbound {environment : Environment}
    (hnegotiation : visit.negotiation.1.get? = some environment)
    (hbinding : visit.binding.1.get? = none)
    (hrun : visit.run = ((.error .bindingUnavailable, visit.bound), visit.binding.2))
  /-- There is no location. -/
  | unlocated {environment : Environment} {binding : Binding} {e : ResolveError}
    (hnegotiation : visit.negotiation.1.get? = some environment)
    (hbinding : visit.binding.1.get? = some binding) (hinspection : visit.inspection.1 = .error e)
    (hrun : visit.run = ((.error e, visit.bound), visit.inspection.2))
  /-- There is a location, and perhaps an object. -/
  | located {environment : Environment} {binding : Binding} {location : Location}
    (hnegotiation : visit.negotiation.1.get? = some environment)
    (hbinding : visit.binding.1.get? = some binding)
    (hinspection : visit.inspection.1 = .ok location)
    (hrun : visit.run =
      (((visit.construction binding location).1.elim (.error .resultConstruction) .ok,
        visit.bound), (visit.construction binding location).2))

/-- **A visit ends with the first stage that fails.** -/
theorem course : visit.Course := by
  cases hnegotiation : visit.negotiation.1.get? with
  | none => exact .refused hnegotiation (visit.run_of_refused hnegotiation)
  | some environment =>
    cases hbinding : visit.binding.1.get? with
    | none => exact .unbound hnegotiation hbinding (visit.run_of_unbound hnegotiation hbinding)
    | some binding =>
      cases hinspection : visit.inspection.1 with
      | error e =>
        have hrun := visit.run_of_unlocated hnegotiation hbinding hinspection
        exact .unlocated hnegotiation hbinding hinspection hrun
      | ok location =>
        have hrun := visit.run_of_located hnegotiation hbinding hinspection
        exact .located hnegotiation hbinding hinspection hrun

/-- A visit that has an environment settles on a result class, too. -/
theorem after_of_environment {environment : Environment}
    (h : visit.negotiation.1.get? = some environment) : visit.after = visit.bound := by
  unfold after
  cases visit.course with
  | refused hnone _ =>
    rw [h] at hnone
    cases hnone
  | unbound _ _ hrun => rw [hrun]
  | unlocated _ _ _ hrun => rw [hrun]
  | located _ _ _ hrun => rw [hrun]

end Visit

/-! ### The calls of a visit -/

variable {α : Type} {stage : Stage} {vm : Vm}

/-- A latch runs what it is offered only if it is fresh. -/
theorem Latch.runs_settle (latch : Latch α) {compute : HostM (Option α)}
    {Made : Option α → List Call → Prop} (h : Runs stage vm compute Made) :
    Runs stage vm (latch.settle compute) fun settled made =>
      latch = .fresh → Made settled.get? made := by
  cases latch with
  | fresh =>
    rw [settle_fresh, ← bind_pure_comp]
    refine h.bind fun outcome made hmade => Runs.pure fun _ => ?_
    rw [get?_ofOutcome, List.append_nil]
    exact hmade
  | unavailable => exact Runs.pure nofun
  | ready value => exact Runs.pure nofun

/-- On a machine that has seen no call of the stage, the calls of the stage are those of the run. -/
theorem Runs.from_start {x : HostM α} {Made : α → List Call → Prop} (h : Runs stage vm x Made)
    {host : Host} (hvm : host.vm = vm) (hnone : host.callsIn stage = []) :
    Ran stage x host (x.run host).1 ((x.run host).2.callsIn stage) (x.run host).2 ∧
      Made (x.run host).1 ((x.run host).2.callsIn stage) := by
  obtain ⟨a, made, host', hran, hmade⟩ := h host hvm
  have hcalls : host'.callsIn stage = made := by rw [hran.here, hnone, List.nil_append]
  rw [hran.run_eq, hcalls]
  exact ⟨hran, hmade⟩

namespace Visit

variable (visit : Visit)

theorem asked_callsIn (stage : Stage) : visit.asked.callsIn stage = [] := by
  have hasked : visit.asked = ((Host.record .getJavaVm).run visit.start).2 := rfl
  have hother : Call.getJavaVm.stage? ≠ some stage := by
    rw [Call.stage?]
    nofun
  rw [hasked, Host.callsIn_record, Stage.select_other hother]
  rfl

/-- The negotiation, which follows its protocol if it takes place. -/
theorem ran_negotiation :
    Ran .negotiation (visit.resolver.capability.settle (negotiate visit.reachable)) visit.asked
        visit.negotiation.1 (visit.negotiation.2.callsIn .negotiation) visit.negotiation.2 ∧
      (visit.resolver.capability = .fresh → visit.negotiation.2.callsIn .negotiation <+:
        Negotiation.protocol visit.machine.vm.potential) := by
  have hnegotiate : Runs .negotiation visit.machine.vm (negotiate visit.reachable) fun _ made =>
      made <+: Negotiation.protocol visit.machine.vm.potential := runs_negotiate visit.reachable
  exact (visit.resolver.capability.runs_settle hnegotiate).from_start rfl (visit.asked_callsIn _)

theorem negotiation_vm : visit.negotiation.2.vm = visit.machine.vm := visit.ran_negotiation.1.keeps

/-- After the negotiation no later stage has begun. -/
theorem negotiation_callsIn_eq_nil {stage : Stage}
    (h : Stage.negotiation.place < stage.place) : visit.negotiation.2.callsIn stage = [] := by
  have hne : stage ≠ .negotiation := Stage.ne_of_place_lt h
  rw [visit.ran_negotiation.1.elsewhere stage hne, asked_callsIn]

/-- The look-up of the result class, which follows its protocol if it takes place, and then gives
what the machine lets be bound. -/
theorem ran_binding :
    Ran .binding (visit.resolver.binder.binding.settle
        (Binding.lookUp visit.resolver.binder.className)) visit.negotiation.2 visit.binding.1
        (visit.binding.2.callsIn .binding) visit.binding.2 ∧
      (visit.resolver.binder.binding = .fresh →
        visit.binding.1.get? = visit.machine.vm.binding? visit.resolver.binder.className ∧
        visit.binding.2.callsIn .binding <+: Binding.protocol visit.resolver.binder.className
          visit.machine.vm.handles.foundClass) := by
  have hlookUp := (Binding.runs_lookUp visit.machine.vm visit.resolver.binder.className).mono
    fun _ _ h => h.1
  exact (visit.resolver.binder.binding.runs_settle hlookUp).from_start visit.negotiation_vm
    (visit.negotiation_callsIn_eq_nil (by decide))

theorem binding_vm : visit.binding.2.vm = visit.machine.vm :=
  visit.ran_binding.1.keeps.trans visit.negotiation_vm

theorem binding_callsIn (stage : Stage) (h : stage ≠ .binding) :
    visit.binding.2.callsIn stage = visit.negotiation.2.callsIn stage :=
  visit.ran_binding.1.elsewhere stage h

/-- After the look-up no later stage has begun. -/
theorem binding_callsIn_eq_nil {stage : Stage} (h : Stage.binding.place < stage.place) :
    visit.binding.2.callsIn stage = [] := by
  have hne : stage ≠ .binding := Stage.ne_of_place_lt h
  rw [visit.binding_callsIn stage hne]
  exact visit.negotiation_callsIn_eq_nil (Nat.lt_trans (by decide) h)

/-- The inspection of the class. -/
theorem ran_inspection :
    Ran .inspection (Tool.introspector.resolve visit.resolver.entryMethod visit.owner).run
        visit.binding.2 visit.inspection.1 (visit.inspection.2.callsIn .inspection)
        visit.inspection.2 ∧
      Inspected visit.machine.vm visit.owner visit.inspection.1
        (visit.inspection.2.callsIn .inspection) := by
  have hnone : visit.binding.2.callsIn .inspection = [] :=
    visit.binding_callsIn_eq_nil (by decide)
  have hresolve := Tool.runs_resolve visit.machine.vm visit.resolver.entryMethod visit.owner
  exact hresolve.from_start visit.binding_vm hnone

theorem inspection_vm : visit.inspection.2.vm = visit.machine.vm :=
  visit.ran_inspection.1.keeps.trans visit.binding_vm

theorem inspection_callsIn (stage : Stage) (h : stage ≠ .inspection) :
    visit.inspection.2.callsIn stage = visit.binding.2.callsIn stage :=
  visit.ran_inspection.1.elsewhere stage h

/-- After the inspection the construction has not begun. -/
theorem inspection_callsIn_eq_nil {stage : Stage} (h : Stage.inspection.place < stage.place) :
    visit.inspection.2.callsIn stage = [] := by
  have hne : stage ≠ .inspection := Stage.ne_of_place_lt h
  rw [visit.inspection_callsIn stage hne]
  exact visit.binding_callsIn_eq_nil (Nat.lt_trans (by decide) h)

/-- The construction of an object. -/
theorem ran_construction (binding : Binding) (location : Location) :
    Ran .construction (binding.construct location) visit.inspection.2
        (visit.construction binding location).1
        ((visit.construction binding location).2.callsIn .construction)
        (visit.construction binding location).2 ∧
      (visit.construction binding location).1 =
        (if visit.machine.vm.handles.newString = 0 then none
          else visit.machine.vm.handles.newObject.nonNull?) ∧
      (visit.construction binding location).2.callsIn .construction =
        binding.constructionCalls location visit.machine.vm.handles := by
  have hnone : visit.inspection.2.callsIn .construction = [] :=
    visit.inspection_callsIn_eq_nil (by decide)
  exact (Binding.runs_construct visit.machine.vm binding location).from_start visit.inspection_vm
    hnone

theorem construction_callsIn (binding : Binding) (location : Location) (stage : Stage)
    (h : stage ≠ .construction) :
    (visit.construction binding location).2.callsIn stage = visit.inspection.2.callsIn stage :=
  (visit.ran_construction binding location).1.elsewhere stage h

/-- The calls of a visit are those on the machine that it leaves. -/
theorem callsIn_eq (stage : Stage) : visit.callsIn stage = visit.run.2.callsIn stage := rfl

/-- Only the negotiation makes calls of its stage. -/
theorem callsIn_negotiation :
    visit.callsIn .negotiation = visit.negotiation.2.callsIn .negotiation := by
  rw [callsIn_eq]
  -- the later stages are taken off one by one, the last first
  cases visit.course with
  | refused _ hrun => rw [hrun]
  | unbound _ _ hrun => rw [hrun, visit.binding_callsIn .negotiation (by decide)]
  | unlocated _ _ _ hrun =>
    rw [hrun, visit.inspection_callsIn .negotiation (by decide),
      visit.binding_callsIn .negotiation (by decide)]
  | located _ _ _ hrun =>
    rw [hrun, visit.construction_callsIn _ _ .negotiation (by decide),
      visit.inspection_callsIn .negotiation (by decide),
      visit.binding_callsIn .negotiation (by decide)]

/-- Only a visit that has an environment makes calls to bind. -/
theorem callsIn_binding : visit.callsIn .binding =
    if visit.negotiation.1.get?.isSome then visit.binding.2.callsIn .binding else [] := by
  rw [callsIn_eq]
  cases visit.course with
  | refused hnegotiation hrun =>
    rw [hrun, hnegotiation, visit.negotiation_callsIn_eq_nil (by decide)]
    rfl
  | unbound hnegotiation _ hrun =>
    rw [hrun, hnegotiation]
    rfl
  | unlocated hnegotiation _ _ hrun =>
    rw [hrun, hnegotiation, visit.inspection_callsIn .binding (by decide)]
    rfl
  | located hnegotiation _ _ hrun =>
    rw [hrun, hnegotiation, visit.construction_callsIn _ _ .binding (by decide),
      visit.inspection_callsIn .binding (by decide)]
    rfl

end Visit
end ClosureSpan
