import ClosureSpan.Proofs.Session.Visits

/-!
# A resolver settles once

A resolver is asked for one class after the other.  Between two visits anything may happen to the
machine, so each visit finds a machine of its own.  The first visit settles whether there is an
environment and, if there is one, the result class; all later visits find this settled and leave it
as it is.

## Main definitions

* `Resolver.visits` — the visits of a resolver, each on a machine of its own.
* `Resolver.Settled` — a resolver on which nothing is left to be settled.
* `SettlesOnce` — what is said of a run as a whole.

## Main results

* `Visit.settled_after` — the first visit settles everything.
* `Resolver.visits_of_settled` — later visits leave everything as it is.
* `Resolver.settles_once` — **a resolver negotiates and binds once in any run.**
-/

namespace ClosureSpan

/-! ### Runs -/

/-- The visits of a resolver.  Each finds the resolver as the visit before has left it, and a
machine that need not have anything to do with the one before. -/
def Resolver.visits (resolver : Resolver) : List (Host × Handle) → List Visit
  | [] => []
  | (machine, owner) :: rest =>
    let visit : Visit := ⟨resolver, machine, owner⟩
    visit :: visit.after.visits rest

/-- The visit to the same machine, had it answered differently when it was asked for. -/
def Visit.reached (visit : Visit) (result : Int) (null : Bool) : Visit :=
  { visit with machine := visit.machine.reached result null }

/-- Everything about a run of a resolver that starts in a given state: what is settled and when,
which calls are made for it, and what comes of it. -/
structure SettlesOnce (start : Resolver) (visits : List Visit) : Prop where
  /-- Only the first visit negotiates. -/
  negotiates_first : ∀ before visit later, visits = before ++ visit :: later →
    visit.callsIn .negotiation ≠ [] → before = []
  /-- No call to negotiate is made twice. -/
  negotiates_once : ∃ potential,
    visits.flatMap (fun visit => visit.callsIn .negotiation) <+: Negotiation.protocol potential
  /-- Only the first visit that has an environment binds. -/
  binds_first : ∀ before visit later, visits = before ++ visit :: later →
    visit.callsIn .binding ≠ [] → (∃ environment, visit.after.capability = .ready environment) ∧
      ∀ earlier ∈ before, ∀ environment, earlier.after.capability ≠ .ready environment
  /-- No call to bind is made twice. -/
  binds_once : ∃ found,
    visits.flatMap (fun visit => visit.callsIn .binding) <+:
      Binding.protocol start.binder.className found
  /-- What was settled does not change. -/
  settled : (start :: visits.map Visit.after).Pairwise fun earlier later =>
    (earlier.capability ≠ .fresh → later.capability = earlier.capability) ∧
      (earlier.binder.binding ≠ .fresh → later.binder.binding = earlier.binder.binding)
  /-- The result class is not looked up before there is an environment. -/
  binds_after : ∀ state ∈ start :: visits.map Visit.after,
    (∀ environment, state.capability ≠ .ready environment) → state.binder.binding = .fresh
  /-- Without an environment the machine is only asked for. -/
  capability_unavailable : visits.Pairwise fun earlier later =>
    earlier.after.capability = .unavailable →
      later.calls = [.getJavaVm] ∧ later.answer = .error .capabilityUnavailable
  /-- Without a result class the machine is only asked for. -/
  binding_unavailable : visits.Pairwise fun earlier later =>
    earlier.after.binder.binding = .unavailable →
      later.calls = [.getJavaVm] ∧ later.answer = .error .bindingUnavailable
  /-- An environment is kept, and then nothing depends on whether the machine can be reached. -/
  capability_ready : visits.Pairwise fun earlier later => ∀ environment,
    earlier.after.capability = .ready environment →
      later.after.capability = .ready environment ∧
      later.answer ≠ .error .capabilityUnavailable ∧ ∀ result null,
        (later.reached result null).answer = later.answer ∧
        (later.reached result null).after = later.after ∧
        (later.reached result null).calls = later.calls

/-! ### What is settled -/

/-- Nothing is left to be settled: there is no environment, and the result class was not looked up;
or there is an environment, and the result class was looked up. -/
def Resolver.Settled (resolver : Resolver) : Prop :=
  (resolver.capability = .unavailable ∧ resolver.binder.binding = .fresh) ∨
    ∃ environment, resolver.capability = .ready environment ∧ resolver.binder.binding ≠ .fresh

namespace Latch

variable {α : Type}

theorem eq_ready_of_get?_eq_some {latch : Latch α} {value : α} (h : latch.get? = some value) :
    latch = .ready value := by
  cases latch with
  | fresh => cases h
  | unavailable => cases h
  | ready other =>
    cases h
    rfl

theorem eq_unavailable_of_get?_eq_none {latch : Latch α} (h : latch.get? = none)
    (hfresh : latch ≠ .fresh) : latch = .unavailable := by
  cases latch with
  | fresh => exact absurd rfl hfresh
  | unavailable => rfl
  | ready value => cases h

/-- Settling leaves no latch fresh. -/
theorem settle_ne_fresh (latch : Latch α) (compute : HostM (Option α)) (host : Host) :
    ((latch.settle compute).run host).1 ≠ .fresh := by
  cases latch with
  | fresh =>
    rw [settle_fresh, StateT.run_map]
    change ofOutcome _ ≠ _
    generalize (compute.run host).1 = outcome
    cases outcome <;> nofun
  | unavailable => nofun
  | ready value => nofun

/-- A latch that is not fresh stays as it is, and the machine is left alone. -/
theorem run_settle_of_ne_fresh {latch : Latch α} (h : latch ≠ .fresh)
    (compute : HostM (Option α)) (host : Host) :
    (latch.settle compute).run host = (latch, host) := by
  cases latch with
  | fresh => exact absurd rfl h
  | unavailable => rfl
  | ready value => rfl

end Latch

namespace Visit

variable {visit : Visit}

/-- **The first visit settles everything.** -/
theorem settled_after (hbinding : visit.resolver.binder.binding = .fresh) :
    visit.after.Settled := by
  have hne : visit.negotiation.1 ≠ .fresh := Latch.settle_ne_fresh _ _ _
  cases hnegotiation : visit.negotiation.1.get? with
  | none =>
    have hafter : visit.after = visit.acquired := by
      rw [after, run_of_refused visit hnegotiation]
    rw [hafter]
    exact .inl ⟨Latch.eq_unavailable_of_get?_eq_none hnegotiation hne, hbinding⟩
  | some environment =>
    have hbound : visit.binding.1 ≠ .fresh := Latch.settle_ne_fresh _ _ _
    rw [after_of_environment visit hnegotiation]
    exact .inr ⟨environment, Latch.eq_ready_of_get?_eq_some hnegotiation, hbound⟩

/-! ### Later visits -/

theorem negotiation_of_settled (h : visit.resolver.capability ≠ .fresh) :
    visit.negotiation = (visit.resolver.capability, visit.asked) :=
  Latch.run_settle_of_ne_fresh h _ _

theorem binding_of_settled (h : visit.resolver.binder.binding ≠ .fresh) :
    visit.binding = (visit.resolver.binder.binding, visit.negotiation.2) :=
  Latch.run_settle_of_ne_fresh h _ _

/-- Without an environment the machine is only asked for. -/
theorem run_of_unavailable (h : visit.resolver.capability = .unavailable) :
    visit.run = ((.error .capabilityUnavailable, visit.resolver), visit.asked) := by
  have hnegotiation : visit.negotiation = (.unavailable, visit.asked) := by
    rw [negotiation_of_settled (by rw [h]; nofun), h]
  have hacquired : visit.acquired = visit.resolver := by
    rw [acquired, hnegotiation, ← h]
  rw [run_of_refused visit (by rw [hnegotiation]; rfl), hacquired, hnegotiation]

/-- With an environment nothing is negotiated. -/
theorem negotiation_of_ready {environment : Environment}
    (h : visit.resolver.capability = .ready environment) :
    visit.negotiation = (.ready environment, visit.asked) := by
  rw [negotiation_of_settled (by rw [h]; nofun), h]

theorem bound_of_ready {environment : Environment}
    (h : visit.resolver.capability = .ready environment)
    (hbinding : visit.resolver.binder.binding ≠ .fresh) : visit.bound = visit.resolver := by
  rw [bound, acquired, negotiation_of_ready h, binding_of_settled hbinding, ← h]

/-- Without a result class the machine is only asked for. -/
theorem run_of_unbindable {environment : Environment}
    (h : visit.resolver.capability = .ready environment)
    (hbinding : visit.resolver.binder.binding = .unavailable) :
    visit.run = ((.error .bindingUnavailable, visit.resolver), visit.asked) := by
  have hfresh : visit.resolver.binder.binding ≠ .fresh := by
    rw [hbinding]
    nofun
  have hnone : visit.binding.1.get? = none := by
    rw [binding_of_settled hfresh, hbinding]
    rfl
  have hsome : visit.negotiation.1.get? = some environment := by
    rw [negotiation_of_ready h]
    rfl
  rw [run_of_unbound visit hsome hnone, bound_of_ready h hfresh, binding_of_settled hfresh,
    negotiation_of_ready h]

/-- **A later visit leaves everything as it is.** -/
theorem after_of_settled (h : visit.resolver.Settled) : visit.after = visit.resolver := by
  rcases h with ⟨hcapability, -⟩ | ⟨environment, hcapability, hbinding⟩
  · rw [after, run_of_unavailable hcapability]
  · have hsome : visit.negotiation.1.get? = some environment := by
      rw [negotiation_of_ready hcapability]
      rfl
    rw [after_of_environment visit hsome, bound_of_ready hcapability hbinding]

/-- A later visit does not negotiate. -/
theorem callsIn_negotiation_of_settled (h : visit.resolver.Settled) :
    visit.callsIn .negotiation = [] := by
  have hfresh : visit.resolver.capability ≠ .fresh := by
    rcases h with ⟨hcapability, -⟩ | ⟨environment, hcapability, -⟩
    · rw [hcapability]
      nofun
    · rw [hcapability]
      nofun
  rw [callsIn_negotiation, negotiation_of_settled hfresh]
  exact visit.asked_callsIn _

/-- A later visit does not bind. -/
theorem callsIn_binding_of_settled (h : visit.resolver.Settled) : visit.callsIn .binding = [] := by
  rcases h with ⟨hcapability, -⟩ | ⟨environment, hcapability, hbinding⟩
  · rw [callsIn_eq, run_of_unavailable hcapability]
    exact visit.asked_callsIn _
  · rw [callsIn_binding, binding_of_settled hbinding, negotiation_of_ready hcapability]
    exact visit.asked_callsIn _

/-- A visit that binds has an environment. -/
theorem exists_ready_of_callsIn_binding (h : visit.callsIn .binding ≠ []) :
    ∃ environment, visit.after.capability = .ready environment := by
  rw [callsIn_binding] at h
  cases hnegotiation : visit.negotiation.1.get? with
  | none =>
    rw [hnegotiation] at h
    exact absurd rfl h
  | some environment =>
    rw [after_of_environment visit hnegotiation]
    exact ⟨environment, Latch.eq_ready_of_get?_eq_some hnegotiation⟩

/-! ### Visits to machines that cannot be reached -/

/-- With an environment a visit does the same, whatever is answered to the question for the
machine. -/
theorem run_reached {environment : Environment} (h : visit.resolver.capability = .ready environment)
    (result : Int) (null : Bool) :
    (visit.reached result null).run = (visit.run.1, visit.run.2.reached result null) := by
  have hnegotiation := negotiation_of_ready h
  have hready : (visit.reached result null).resolver.capability = .ready environment := h
  have hnegotiation' : (visit.reached result null).negotiation =
      (.ready environment, visit.asked.reached result null) := negotiation_of_ready hready
  -- stage by stage, the two machines differ in this answer only
  have hbinding : (visit.reached result null).binding =
      (visit.binding.1, visit.binding.2.reached result null) := by
    have hrun := visit.ran_binding.1.run result null
    rw [hnegotiation] at hrun
    rw [← hrun, binding, hnegotiation']
    rfl
  have hinspection : (visit.reached result null).inspection =
      (visit.inspection.1, visit.inspection.2.reached result null) := by
    rw [← visit.ran_inspection.1.run result null, inspection, hbinding]
    rfl
  have hconstruction : ∀ binding location,
      (visit.reached result null).construction binding location =
        ((visit.construction binding location).1,
          (visit.construction binding location).2.reached result null) := by
    intro binding location
    rw [← (visit.ran_construction binding location).1.run result null, construction, hinspection]
  have hbound : (visit.reached result null).bound = visit.bound := by
    rw [bound, bound, acquired, acquired, hbinding, hnegotiation', hnegotiation]
    rfl
  have hsome : (visit.reached result null).negotiation.1.get? = some environment := by
    rw [hnegotiation']
    rfl
  cases visit.course with
  | refused hnone _ =>
    rw [hnegotiation] at hnone
    cases hnone
  | unbound _ hnone hrun =>
    have hnone' : (visit.reached result null).binding.1.get? = none := by rw [hbinding, hnone]
    rw [hrun, run_of_unbound _ hsome hnone', hbound, hbinding]
  | @unlocated _ binding e _ hfound herror hrun =>
    have hfound' : (visit.reached result null).binding.1.get? = some binding := by
      rw [hbinding, hfound]
    have herror' : (visit.reached result null).inspection.1 = .error e := by
      rw [hinspection, herror]
    rw [hrun, run_of_unlocated _ hsome hfound' herror', hbound, hinspection]
  | @located _ binding location _ hfound hlocation hrun =>
    have hfound' : (visit.reached result null).binding.1.get? = some binding := by
      rw [hbinding, hfound]
    have hlocation' : (visit.reached result null).inspection.1 = .ok location := by
      rw [hinspection, hlocation]
    rw [hrun, run_of_located _ hsome hfound' hlocation', hbound, hconstruction]

/-- A visit that has an environment does not fail for want of one. -/
theorem answer_ne_capabilityUnavailable {environment : Environment}
    (h : visit.resolver.capability = .ready environment) :
    visit.answer ≠ .error .capabilityUnavailable := by
  have hnegotiation := negotiation_of_ready h
  unfold answer
  cases visit.course with
  | refused hnone _ =>
    rw [hnegotiation] at hnone
    cases hnone
  | unbound _ _ hrun =>
    rw [hrun]
    nofun
  | unlocated _ _ herror hrun =>
    have hraised := visit.ran_inspection.2
    rw [herror] at hraised
    rw [hrun]
    rintro ⟨⟩
    cases hraised
  | @located _ binding location _ _ _ hrun =>
    rw [hrun]
    cases (visit.construction binding location).1 with
    | none => nofun
    | some object => nofun

end Visit

/-! ### Runs of a resolver -/

/-- **Later visits find and leave everything as it is.** -/
theorem Resolver.visits_of_settled {resolver : Resolver} (h : resolver.Settled)
    (occasions : List (Host × Handle)) :
    ∀ visit ∈ resolver.visits occasions, visit.resolver = resolver ∧ visit.after = resolver := by
  induction occasions with
  | nil =>
    intro visit hvisit
    rw [visits] at hvisit
    exact absurd hvisit List.not_mem_nil
  | cons occasion rest ih =>
    obtain ⟨machine, owner⟩ := occasion
    have hafter : (⟨resolver, machine, owner⟩ : Visit).after = resolver :=
      Visit.after_of_settled h
    intro visit hvisit
    rw [visits, hafter] at hvisit
    rcases List.mem_cons.mp hvisit with rfl | hlater
    · exact ⟨rfl, hafter⟩
    · exact ih visit hlater

/-- What holds between any visit and a later one. -/
theorem pairwise_of_later {first : Visit} {rest : List Visit} {Related : Visit → Visit → Prop}
    (h : ∀ earlier ∈ first :: rest, ∀ later ∈ rest, Related earlier later) :
    (first :: rest).Pairwise Related := by
  refine List.pairwise_of_forall_sublist ?_
  intro earlier later hsublist
  have hearlier : earlier ∈ first :: rest := hsublist.subset List.mem_cons_self
  have hlater : later ∈ rest := List.singleton_sublist.mp hsublist.tail
  exact h earlier hearlier later hlater

/-- A visit that does what no later visit does is the first. -/
theorem eq_nil_of_cons_eq {first visit : Visit} {before after later : List Visit}
    {Does : Visit → Prop} (hlater : ∀ other ∈ later, ¬ Does other)
    (h : first :: later = before ++ visit :: after) (hvisit : Does visit) : before = [] := by
  cases before with
  | nil => rfl
  | cons head before =>
    have htail : later = before ++ visit :: after := (List.cons.inj h).2
    have hmem : visit ∈ later := by
      rw [htail]
      exact List.mem_append_right _ List.mem_cons_self
    exact absurd hvisit (hlater visit hmem)

/-- No call of a stage is made after the first visit. -/
theorem flatMap_callsIn {first : Visit} {later : List Visit} {stage : Stage}
    (hlater : ∀ visit ∈ later, visit.callsIn stage = []) :
    (first :: later).flatMap (fun visit => visit.callsIn stage) = first.callsIn stage := by
  have hnone : later.flatMap (fun visit => visit.callsIn stage) = [] :=
    List.flatMap_eq_nil_iff.mpr hlater
  rw [List.flatMap_cons, hnone, List.append_nil]

/-- Without a visit nothing is settled. -/
theorem SettlesOnce.nil {start : Resolver} (hbinding : start.binder.binding = .fresh) :
    SettlesOnce start [] where
  negotiates_first before visit later hvisits := by simp at hvisits
  negotiates_once := ⟨0, List.nil_prefix⟩
  binds_first before visit later hvisits := by simp at hvisits
  binds_once := ⟨0, List.nil_prefix⟩
  settled := List.pairwise_singleton _ _
  binds_after state hstate _ := by
    obtain rfl := List.mem_singleton.mp hstate
    exact hbinding
  capability_unavailable := .nil
  binding_unavailable := .nil
  capability_ready := .nil

/-- A run settles once if its first visit settles everything, and later visits leave it so. -/
theorem SettlesOnce.of_first {first : Visit} {later : List Visit}
    (hcapability : first.resolver.capability = .fresh)
    (hbinding : first.resolver.binder.binding = .fresh)
    (hlater : ∀ visit ∈ later, visit.resolver = first.after ∧ visit.after = first.after) :
    SettlesOnce first.resolver (first :: later) := by
  have hsettled : first.after.Settled := Visit.settled_after hbinding
  have hfind : ∀ visit ∈ later, visit.resolver.Settled := by
    intro visit hvisit
    rw [(hlater visit hvisit).1]
    exact hsettled
  have hnegotiates : ∀ visit ∈ later, visit.callsIn .negotiation = [] := fun visit hvisit =>
    Visit.callsIn_negotiation_of_settled (hfind visit hvisit)
  have hbinds : ∀ visit ∈ later, visit.callsIn .binding = [] := fun visit hvisit =>
    Visit.callsIn_binding_of_settled (hfind visit hvisit)
  have hafter : ∀ visit ∈ first :: later, visit.after = first.after := by
    intro visit hvisit
    rcases List.mem_cons.mp hvisit with rfl | hvisit
    · rfl
    · exact (hlater visit hvisit).2
  constructor
  case negotiates_first =>
    intro before visit after hvisits hcalls
    exact eq_nil_of_cons_eq (fun other hother => not_not.mpr (hnegotiates other hother)) hvisits
      hcalls
  case negotiates_once =>
    rw [flatMap_callsIn hnegotiates, Visit.callsIn_negotiation]
    exact ⟨_, first.ran_negotiation.2 hcapability⟩
  case binds_first =>
    intro before visit after hvisits hcalls
    obtain rfl := eq_nil_of_cons_eq (fun other hother => not_not.mpr (hbinds other hother)) hvisits
      hcalls
    refine ⟨Visit.exists_ready_of_callsIn_binding hcalls, ?_⟩
    intro earlier hearlier
    exact absurd hearlier List.not_mem_nil
  case binds_once =>
    rw [flatMap_callsIn hbinds, Visit.callsIn_binding]
    refine ⟨first.machine.vm.handles.foundClass, ?_⟩
    split
    next => exact (first.ran_binding.2 hbinding).2
    next => exact List.nil_prefix
  case settled =>
    refine List.pairwise_cons.mpr ⟨fun _ _ => ?_, List.pairwise_map.mpr (pairwise_of_later ?_)⟩
    · exact ⟨fun hne => absurd hcapability hne, fun hne => absurd hbinding hne⟩
    · intro earlier hearlier visit hvisit
      rw [hafter earlier hearlier, (hlater visit hvisit).2]
      exact ⟨fun _ => rfl, fun _ => rfl⟩
  case binds_after =>
    intro state hstate hready
    rcases List.mem_cons.mp hstate with rfl | hstate
    · exact hbinding
    obtain ⟨visit, hvisit, rfl⟩ := List.mem_map.mp hstate
    rw [hafter visit hvisit] at hready ⊢
    rcases hsettled with ⟨-, hfresh⟩ | ⟨environment, henvironment, -⟩
    · exact hfresh
    · exact absurd henvironment (hready environment)
  case capability_unavailable =>
    refine pairwise_of_later fun earlier hearlier visit hvisit hunavailable => ?_
    have hresolver : visit.resolver.capability = .unavailable := by
      rw [(hlater visit hvisit).1, ← hafter earlier hearlier, hunavailable]
    have hrun := Visit.run_of_unavailable hresolver
    rw [Visit.calls, Visit.answer, hrun]
    exact ⟨rfl, rfl⟩
  case binding_unavailable =>
    refine pairwise_of_later fun earlier hearlier visit hvisit hunavailable => ?_
    have hresolver : visit.resolver.binder.binding = .unavailable := by
      rw [(hlater visit hvisit).1, ← hafter earlier hearlier, hunavailable]
    -- there is an environment, since otherwise nothing would have been looked up
    rcases hfind visit hvisit with ⟨-, hfresh⟩ | ⟨environment, hready, -⟩
    · rw [hresolver] at hfresh
      cases hfresh
    have hrun := Visit.run_of_unbindable hready hresolver
    rw [Visit.calls, Visit.answer, hrun]
    exact ⟨rfl, rfl⟩
  case capability_ready =>
    refine pairwise_of_later fun earlier hearlier visit hvisit environment hready => ?_
    have hresolver : visit.resolver.capability = .ready environment := by
      rw [(hlater visit hvisit).1, ← hafter earlier hearlier, hready]
    refine ⟨?_, Visit.answer_ne_capabilityUnavailable hresolver, fun result null => ?_⟩
    · rw [(hlater visit hvisit).2, ← hafter earlier hearlier, hready]
    · rw [Visit.answer, Visit.after, Visit.calls, Visit.run_reached hresolver result null]
      exact ⟨rfl, rfl, rfl⟩

/-- **A resolver negotiates and binds once in any run**: whatever the machine does between two
visits, and whatever the visits come to. -/
theorem Resolver.settles_once (options : Options) (occasions : List (Host × Handle)) :
    SettlesOnce (ofOptions options) ((ofOptions options).visits occasions) := by
  cases occasions with
  | nil => exact SettlesOnce.nil rfl
  | cons occasion rest =>
    obtain ⟨machine, owner⟩ := occasion
    have hsettled : (⟨ofOptions options, machine, owner⟩ : Visit).after.Settled :=
      Visit.settled_after rfl
    exact SettlesOnce.of_first rfl rfl (visits_of_settled hsettled rest)

end ClosureSpan
