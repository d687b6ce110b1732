import ClosureSpan.Proofs.Session.Visits
import ClosureSpan.Proofs.Vm.Questions

/-!
# What a fresh resolver answers

A fresh resolver goes through all four stages.  It answers with an object exactly if the machine
lets each of them succeed, and otherwise with the error of the first that fails.

## Main definitions

* `Host.Grants` — a machine that lets line tables be read.
* `EndToEnd` — the answer of a visit, and the calls that lead to it, in terms of the machine.

## Main results

* `negotiate_eq_some_iff` — what a negotiation gives.
* `exists_negotiate_iff` — the negotiation succeeds on the machines that let line tables be read.
* `Resolver.end_to_end` — **the answer of a fresh resolver, whatever the machine.**
-/

namespace ClosureSpan

variable {α β : Type}

/-! ### Machines that let line tables be read -/

/-- The function is there and succeeds. -/
def Vm.Answers (vm : Vm) (function : ToolFunction) : Prop :=
  function ∉ vm.missing ∧ vm.statusOf function = Status.success

/-- The machine can be reached, gives a tool environment, and grants the capability to read line
tables when it is asked for all that it can grant. -/
structure Host.Grants (host : Host) : Prop where
  /-- The machine is there. -/
  machine : host.vm.machineResult = 0 ∧ host.vm.nullMachine = false
  /-- The environment is there. -/
  environment : host.vm.environmentResult = 0 ∧ host.vm.nullEnvironment = false
  /-- It can be asked which capabilities there are. -/
  potential : host.vm.Answers .getPotentialCapabilities
  /-- They can be asked for. -/
  added : host.vm.Answers .addCapabilities
  /-- It can be asked which were granted. -/
  answers : host.vm.Answers .getCapabilities
  /-- And line tables are among them. -/
  lines : (host.vm.granted.getD (host.added ||| host.vm.potential)).has
    CapabilitySet.lineNumbersBit = true

namespace Tool

/-- A function succeeds if it is there, is not refused, and comes to an answer. -/
theorem run_call_eq_ok_iff {function : ToolFunction} {entry : Call} {answer : Vm → ToolM α}
    {host mid : Host} {a : α} :
    (call function entry answer).run.run host = (.ok a, mid) ↔
      host.vm.Answers function ∧
        (answer host.vm).run.run ((Host.record entry).run host).2 = (.ok a, mid) := by
  rw [run_call]
  unfold Vm.Answers
  by_cases hmissing : function ∈ host.vm.missing
  · rw [if_pos hmissing]
    constructor
    · intro h
      cases h
    · rintro ⟨⟨hpresent, -⟩, -⟩
      exact absurd hmissing hpresent
  rw [if_neg hmissing]
  by_cases hstatus : host.vm.statusOf function = Status.success
  · rw [if_pos hstatus]
    exact ⟨fun h => ⟨⟨hmissing, hstatus⟩, h⟩, fun h => h.2⟩
  · rw [if_neg hstatus]
    constructor
    · intro h
      cases h
    · rintro ⟨⟨-, hsuccess⟩, -⟩
      exact absurd hsuccess hstatus

/-- A tool environment is opened if it is there. -/
theorem run_openEnvironment_eq_ok_iff {host mid : Host} {u : Unit} :
    openEnvironment.run.run host = (.ok u, mid) ↔
      (host.vm.environmentResult = 0 ∧ host.vm.nullEnvironment = false) ∧
        ((Host.record (.getEnvironment version)).run host).2 = mid := by
  rw [run_openEnvironment, Prod.mk.injEq]
  refine and_congr_left fun _ => ?_
  by_cases hresult : host.vm.environmentResult = 0
  · simp [hresult]
  · simp [hresult]

end Tool

namespace Negotiation

/-- A negotiation succeeds step by step. -/
theorem run_bind_eq_some_iff {x : OptionT HostM α} {f : α → OptionT HostM β} {host last : Host}
    {b : β} : (x >>= f).run.run host = (some b, last) ↔
      ∃ a mid, x.run.run host = (some a, mid) ∧ (f a).run.run mid = (some b, last) := by
  rw [run_bind]
  generalize x.run.run host = run
  obtain ⟨outcome, mid⟩ := run
  cases outcome with
  | none =>
    constructor
    · intro h
      cases h
    · rintro ⟨a, mid', h, -⟩
      cases h
  | some a =>
    constructor
    · intro h
      exact ⟨a, mid, rfl, h⟩
    · rintro ⟨a', mid', h, hf⟩
      cases h
      exact hf

theorem run_openEnvironment_eq_some_iff {host mid : Host} {u : Unit} :
    openEnvironment.run.run host = (some u, mid) ↔
      (host.vm.environmentResult = 0 ∧ host.vm.nullEnvironment = false) ∧
        ((Host.record (.getEnvironment Tool.version)).run host).2 = mid := by
  rw [← Tool.run_openEnvironment_eq_ok_iff (u := u)]
  unfold openEnvironment
  rw [OptionT.run_mk, StateT.run_bind]
  generalize Tool.openEnvironment.run.run host = run
  obtain ⟨outcome, mid'⟩ := run
  cases outcome with
  | ok value =>
    constructor
    · intro h
      cases h
      rfl
    · intro h
      cases h
      rfl
  | error code =>
    constructor
    · intro h
      cases h
    · intro h
      cases h

/-- A step succeeds if its function does. -/
theorem run_attempt_eq_some_iff {name : String} {step : ToolM α} {host mid : Host} {a : α} :
    (attempt name step).run.run host = (some a, mid) ↔ step.run.run host = (.ok a, mid) := by
  rw [run_attempt]
  generalize step.run.run host = run
  obtain ⟨outcome, mid'⟩ := run
  cases outcome with
  | ok value =>
    constructor
    · intro h
      cases h
      rfl
    · intro h
      cases h
      rfl
  | error status =>
    constructor
    · intro h
      cases h
    · intro h
      cases h

/-- What was granted is accepted if line tables are among it. -/
theorem run_accept_eq_some_iff {granted : CapabilitySet} {host last : Host}
    {environment : Environment} :
    (accept granted).run.run host = (some environment, last) ↔
      granted.has CapabilitySet.lineNumbersBit = true ∧ ⟨granted⟩ = environment ∧
        ((Host.report (negotiated granted)).run host).2 = last := by
  unfold accept
  rw [OptionT.run_mk]
  by_cases hlines : granted.has CapabilitySet.lineNumbersBit = true
  · rw [if_pos hlines]
    constructor
    · intro h
      cases h
      exact ⟨hlines, rfl, rfl⟩
    · rintro ⟨-, rfl, rfl⟩
      rfl
  · rw [if_neg hlines]
    constructor
    · intro h
      cases h
    · rintro ⟨h, -⟩
      exact absurd h hlines

end Negotiation

/-- What the machine reports as granted once everything that it can grant was asked for. -/
def Host.reported (host : Host) : CapabilitySet :=
  host.vm.granted.getD (host.added ||| host.vm.potential)

/-- An environment is obtained if every step of the negotiation succeeds, and it has what is
reported as granted. -/
theorem negotiate_eq_some_iff {host : Host} {environment : Environment} :
    ((negotiate true).run host).1 = some environment ↔
      (host.vm.environmentResult = 0 ∧ host.vm.nullEnvironment = false) ∧
      host.vm.Answers .getPotentialCapabilities ∧ host.vm.Answers .addCapabilities ∧
      host.vm.Answers .getCapabilities ∧
      host.reported.has CapabilitySet.lineNumbersBit = true ∧ ⟨host.reported⟩ = environment := by
  have hpair : ((negotiate true).run host).1 = some environment ↔
      ∃ last, (negotiate true).run host = (some environment, last) := by
    constructor
    · intro h
      exact ⟨_, Prod.ext h rfl⟩
    · rintro ⟨last, h⟩
      rw [h]
  rw [hpair]
  unfold negotiate
  rw [if_pos rfl]
  constructor
  · rintro ⟨last, h⟩
    obtain ⟨_, opened, hopen, h⟩ := Negotiation.run_bind_eq_some_iff.mp h
    obtain ⟨potential, asked, hpotential, h⟩ := Negotiation.run_bind_eq_some_iff.mp h
    obtain ⟨_, added, hadd, h⟩ := Negotiation.run_bind_eq_some_iff.mp h
    obtain ⟨granted, told, hgranted, haccept⟩ := Negotiation.run_bind_eq_some_iff.mp h
    obtain ⟨henvironment, rfl⟩ := Negotiation.run_openEnvironment_eq_some_iff.mp hopen
    have hpotential :=
      Tool.run_call_eq_ok_iff.mp (Negotiation.run_attempt_eq_some_iff.mp hpotential)
    cases hpotential.2
    have hadd := Tool.run_call_eq_ok_iff.mp (Negotiation.run_attempt_eq_some_iff.mp hadd)
    cases hadd.2
    have hgranted := Tool.run_call_eq_ok_iff.mp (Negotiation.run_attempt_eq_some_iff.mp hgranted)
    cases hgranted.2
    obtain ⟨hlines, hgrants, -⟩ := Negotiation.run_accept_eq_some_iff.mp haccept
    exact ⟨henvironment, hpotential.1, hadd.1, hgranted.1, hlines, hgrants⟩
  · rintro ⟨henvironment, hpotential, hadd, hanswers, hlines, rfl⟩
    apply Exists.intro
    apply Negotiation.run_bind_eq_some_iff.mpr
    refine ⟨(), _, Negotiation.run_openEnvironment_eq_some_iff.mpr ⟨henvironment, rfl⟩, ?_⟩
    apply Negotiation.run_bind_eq_some_iff.mpr
    refine ⟨_, _, Negotiation.run_attempt_eq_some_iff.mpr
      (Tool.run_call_eq_ok_iff.mpr ⟨hpotential, rfl⟩), ?_⟩
    apply Negotiation.run_bind_eq_some_iff.mpr
    refine ⟨_, _, Negotiation.run_attempt_eq_some_iff.mpr
      (Tool.run_call_eq_ok_iff.mpr ⟨hadd, rfl⟩), ?_⟩
    apply Negotiation.run_bind_eq_some_iff.mpr
    refine ⟨_, _, Negotiation.run_attempt_eq_some_iff.mpr
      (Tool.run_call_eq_ok_iff.mpr ⟨hanswers, rfl⟩), ?_⟩
    exact Negotiation.run_accept_eq_some_iff.mpr ⟨hlines, rfl, rfl⟩

/-- **The negotiation succeeds on the machines that let line tables be read.** -/
theorem exists_negotiate_iff {host : Host}
    (hmachine : host.vm.machineResult = 0 ∧ host.vm.nullMachine = false) :
    (∃ environment, ((negotiate true).run host).1 = some environment) ↔ host.Grants := by
  constructor
  · rintro ⟨environment, h⟩
    obtain ⟨henvironment, hpotential, hadd, hanswers, hlines, -⟩ := negotiate_eq_some_iff.mp h
    exact ⟨hmachine, henvironment, hpotential, hadd, hanswers, hlines⟩
  · intro h
    exact ⟨_, negotiate_eq_some_iff.mpr
      ⟨h.environment, h.potential, h.added, h.answers, h.lines, rfl⟩⟩

/-! ### Answers -/

/-- The answer of a visit that goes through all stages, and the calls that lead to it, in terms of
the machine. -/
structure EndToEnd (visit : Visit) : Prop where
  /-- The answer is an object if all stages succeed, namely the object that was made. -/
  ok_iff : ∀ object, visit.answer = .ok object ↔
    visit.machine.Grants ∧
    (∃ binding, visit.machine.vm.binding? visit.resolver.binder.className = some binding) ∧
    (∃ location, visit.inspection.1 = .ok location) ∧
    visit.machine.vm.handles.newString ≠ 0 ∧ visit.machine.vm.handles.newObject ≠ 0 ∧
    object = visit.machine.vm.handles.newObject
  /-- Then a string was made of the name of the source file, decoded and encoded again, and an
  object of this string and the lines. -/
  constructed : ∀ object, visit.answer = .ok object → ∃ name start stop,
    visit.machine.vm.sourceFile? visit.owner = some name ∧
    .query .sourceFile visit.owner ∈ visit.callsIn .inspection ∧
    visit.inspection.1 = .ok ⟨ModifiedUtf8.decode name, start, stop⟩ ∧
    0 < start ∧ start ≤ stop ∧
    (ModifiedUtf8.Canonical name →
      ModifiedUtf8.encode (ModifiedUtf8.decode name) = name) ∧
    visit.callsIn .construction =
      [.newString (ModifiedUtf8.encode (ModifiedUtf8.decode name)),
        .newObject visit.machine.vm.handles.globalRef visit.machine.vm.handles.foundMethod
          visit.machine.vm.handles.newString start stop]
  /-- The first stage fails if the machine does not let line tables be read. -/
  refused_iff : visit.answer = .error .capabilityUnavailable ↔ ¬ visit.machine.Grants
  /-- The second fails if the machine does not let the result class be bound. -/
  unbound_iff : visit.answer = .error .bindingUnavailable ↔ visit.machine.Grants ∧
    visit.machine.vm.binding? visit.resolver.binder.className = none
  /-- The third fails with the error of the inspection. -/
  unlocated_iff : ∀ e : ResolveError, e.raisedIn = .inspection →
    (visit.answer = .error e ↔ visit.machine.Grants ∧
      (∃ binding, visit.machine.vm.binding? visit.resolver.binder.className = some binding) ∧
      visit.inspection.1 = .error e)
  /-- The last fails for a null, and only for that. -/
  unconstructed_iff : visit.answer = .error .resultConstruction ↔ visit.machine.Grants ∧
    (∃ binding, visit.machine.vm.binding? visit.resolver.binder.className = some binding) ∧
    (∃ location, visit.inspection.1 = .ok location) ∧
    (visit.machine.vm.handles.newString = 0 ∨ visit.machine.vm.handles.newObject = 0)
  /-- Without a string no object is made. -/
  without_string : visit.machine.vm.handles.newString = 0 →
    ∀ call ∈ visit.callsIn .construction, ∃ text, call = .newString text
  /-- A stage beyond the one that fails is not begun. -/
  nothing_later : ∀ e, visit.answer = .error e → ∀ stage, e.raisedIn.place < stage.place →
    visit.callsIn stage = []

namespace Visit

variable {visit : Visit}

/-- Whether there is an environment depends on the machine. -/
theorem exists_environment_iff (hfresh : visit.resolver.capability = .fresh) :
    (∃ environment, visit.negotiation.1.get? = some environment) ↔ visit.machine.Grants := by
  have hget : visit.negotiation.1.get? = ((negotiate visit.reachable).run visit.asked).1 := by
    rw [negotiation, hfresh, Latch.settle_fresh]
    exact Latch.get?_ofOutcome _
  rw [hget]
  by_cases hmachine : visit.machine.vm.machineResult = 0 ∧ visit.machine.vm.nullMachine = false
  · have hreachable : visit.reachable = true := by
      change (decide (visit.machine.vm.machineResult = 0) && !visit.machine.vm.nullMachine) = true
      simp [hmachine]
    have hasked : (∃ environment, ((negotiate true).run visit.asked).1 = some environment) ↔
        visit.asked.Grants := exists_negotiate_iff hmachine
    rw [hreachable, hasked]
    constructor
    · intro h
      exact ⟨h.machine, h.environment, h.potential, h.added, h.answers, h.lines⟩
    · intro h
      exact ⟨h.machine, h.environment, h.potential, h.added, h.answers, h.lines⟩
  · have hreachable : visit.reachable = false := by
      change (decide (visit.machine.vm.machineResult = 0) && !visit.machine.vm.nullMachine) = false
      simpa using hmachine
    rw [hreachable]
    constructor
    · rintro ⟨environment, h⟩
      cases h
    · intro h
      exact absurd h.machine hmachine

end Visit

/-- Errors of different stages are different. -/
theorem ResolveError.ne_of_raisedIn_ne {e e' : ResolveError} (h : e.raisedIn ≠ e'.raisedIn) :
    e ≠ e' := fun heq => h (congrArg raisedIn heq)

/-- The result class that is bound has the reference and the constructor that were looked up. -/
theorem Vm.eq_of_binding?_eq_some {vm : Vm} {className : String} {binding : Binding}
    (h : vm.binding? className = some binding) :
    binding = ⟨vm.handles.globalRef, vm.handles.foundMethod⟩ := by
  unfold binding? at h
  split at h
  next =>
    cases h
    rfl
  next => cases h

namespace EndToEnd

variable {visit : Visit} {binding : Binding} {location : Location}

theorem of_refused (hgrants : ¬ visit.machine.Grants)
    (hanswer : visit.answer = .error .capabilityUnavailable)
    (hcalls : ∀ stage, Stage.negotiation.place < stage.place → visit.callsIn stage = []) :
    EndToEnd visit where
  ok_iff object := by simp [hanswer, hgrants]
  constructed object hobject := by simp [hanswer] at hobject
  refused_iff := by simp [hanswer, hgrants]
  unbound_iff := by simp [hanswer, hgrants]
  unlocated_iff e he := by
    have hne : ResolveError.capabilityUnavailable ≠ e :=
      ResolveError.ne_of_raisedIn_ne (by rw [he]; decide)
    simp [hanswer, hgrants, hne]
  unconstructed_iff := by simp [hanswer, hgrants]
  without_string _ call hcall := by
    rw [hcalls .construction (by decide)] at hcall
    exact absurd hcall List.not_mem_nil
  nothing_later e he stage hstage := by
    rw [hanswer] at he
    cases he
    exact hcalls stage hstage

theorem of_unbound (hgrants : visit.machine.Grants)
    (hbinding : visit.machine.vm.binding? visit.resolver.binder.className = none)
    (hanswer : visit.answer = .error .bindingUnavailable)
    (hcalls : ∀ stage, Stage.binding.place < stage.place → visit.callsIn stage = []) :
    EndToEnd visit where
  ok_iff object := by simp [hanswer, hbinding]
  constructed object hobject := by simp [hanswer] at hobject
  refused_iff := by simp [hanswer, hgrants]
  unbound_iff := by simp [hanswer, hgrants, hbinding]
  unlocated_iff e he := by
    have hne : ResolveError.bindingUnavailable ≠ e :=
      ResolveError.ne_of_raisedIn_ne (by rw [he]; decide)
    simp [hanswer, hbinding, hne]
  unconstructed_iff := by simp [hanswer, hbinding]
  without_string _ call hcall := by
    rw [hcalls .construction (by decide)] at hcall
    exact absurd hcall List.not_mem_nil
  nothing_later e he stage hstage := by
    rw [hanswer] at he
    cases he
    exact hcalls stage hstage

theorem of_unlocated {cause : ResolveError} (hgrants : visit.machine.Grants)
    (hbinding : visit.machine.vm.binding? visit.resolver.binder.className = some binding)
    (hinspection : visit.inspection.1 = .error cause) (hraised : cause.raisedIn = .inspection)
    (hanswer : visit.answer = .error cause)
    (hcalls : ∀ stage, Stage.inspection.place < stage.place → visit.callsIn stage = []) :
    EndToEnd visit where
  ok_iff object := by simp [hanswer, hinspection]
  constructed object hobject := by simp [hanswer] at hobject
  refused_iff := by
    have hne : cause ≠ .capabilityUnavailable :=
      ResolveError.ne_of_raisedIn_ne (by rw [hraised]; decide)
    simp [hanswer, hgrants, hne]
  unbound_iff := by
    have hne : cause ≠ .bindingUnavailable :=
      ResolveError.ne_of_raisedIn_ne (by rw [hraised]; decide)
    simp [hanswer, hbinding, hne]
  unlocated_iff e he := by simp [hanswer, hgrants, hbinding, hinspection]
  unconstructed_iff := by
    have hne : cause ≠ .resultConstruction :=
      ResolveError.ne_of_raisedIn_ne (by rw [hraised]; decide)
    simp [hanswer, hinspection, hne]
  without_string _ call hcall := by
    rw [hcalls .construction (by decide)] at hcall
    exact absurd hcall List.not_mem_nil
  nothing_later e he stage hstage := by
    rw [hanswer] at he
    cases he
    rw [hraised] at hstage
    exact hcalls stage hstage

theorem of_unconstructed (hgrants : visit.machine.Grants)
    (hbinding : visit.machine.vm.binding? visit.resolver.binder.className = some binding)
    (hinspection : visit.inspection.1 = .ok location)
    (hnull : visit.machine.vm.handles.newString = 0 ∨ visit.machine.vm.handles.newObject = 0)
    (hanswer : visit.answer = .error .resultConstruction)
    (hcalls : visit.callsIn .construction =
      binding.constructionCalls location visit.machine.vm.handles) : EndToEnd visit where
  ok_iff object := by
    rcases hnull with hnull | hnull
    · simp [hanswer, hnull]
    · simp [hanswer, hnull]
  constructed object hobject := by simp [hanswer] at hobject
  refused_iff := by simp [hanswer, hgrants]
  unbound_iff := by simp [hanswer, hbinding]
  unlocated_iff e he := by
    have hne : ResolveError.resultConstruction ≠ e :=
      ResolveError.ne_of_raisedIn_ne (by rw [he]; decide)
    simp [hanswer, hinspection, hne]
  unconstructed_iff := by simp [hanswer, hgrants, hbinding, hinspection, hnull]
  without_string hstring call hcall := by
    rw [hcalls, Binding.constructionCalls, if_pos hstring] at hcall
    exact ⟨_, List.mem_singleton.mp hcall⟩
  nothing_later e he stage hstage := by
    rw [hanswer] at he
    cases he
    cases stage <;> exact absurd hstage (by decide)

theorem of_constructed (hgrants : visit.machine.Grants)
    (hbinding : visit.machine.vm.binding? visit.resolver.binder.className =
      some ⟨visit.machine.vm.handles.globalRef, visit.machine.vm.handles.foundMethod⟩)
    (hinspection : visit.inspection.1 = .ok location)
    (hinspected : Inspected visit.machine.vm visit.owner (.ok location)
      (visit.callsIn .inspection))
    (hstring : visit.machine.vm.handles.newString ≠ 0)
    (hobject : visit.machine.vm.handles.newObject ≠ 0)
    (hanswer : visit.answer = .ok visit.machine.vm.handles.newObject)
    (hcalls : visit.callsIn .construction = Binding.constructionCalls
      ⟨visit.machine.vm.handles.globalRef, visit.machine.vm.handles.foundMethod⟩ location
      visit.machine.vm.handles) : EndToEnd visit where
  ok_iff object := by
    simp [hanswer, hgrants, hbinding, hinspection, hstring, hobject, eq_comm]
  constructed object _ := by
    obtain ⟨⟨hpositive, hordered⟩, hquery, name, hname, hdecoded⟩ := hinspected
    have hlocation : location =
        ⟨ModifiedUtf8.decode name, location.startLine, location.endLine⟩ := by rw [← hdecoded]
    refine ⟨name, location.startLine, location.endLine, hname, hquery, ?_, hpositive, hordered,
      ModifiedUtf8.encode_decode_eq_iff.mpr, ?_⟩
    · rw [hinspection, ← hlocation]
    · rw [hcalls, Binding.constructionCalls, if_neg hstring, ← hdecoded]
  refused_iff := by simp [hanswer, hgrants]
  unbound_iff := by simp [hanswer, hbinding]
  unlocated_iff e he := by simp [hanswer, hinspection]
  unconstructed_iff := by simp [hanswer, hstring, hobject]
  without_string hnull := absurd hnull hstring
  nothing_later e he := by simp [hanswer] at he

/-- Once a location is there, the answer depends on the two references that the machine makes. -/
theorem of_located (hgrants : visit.machine.Grants)
    (hbinding : visit.machine.vm.binding? visit.resolver.binder.className = some binding)
    (hinspection : visit.inspection.1 = .ok location)
    (hinspected : Inspected visit.machine.vm visit.owner (.ok location)
      (visit.callsIn .inspection))
    (hanswer : visit.answer = (if visit.machine.vm.handles.newString = 0 then none
      else visit.machine.vm.handles.newObject.nonNull?).elim (.error .resultConstruction) .ok)
    (hcalls : visit.callsIn .construction =
      binding.constructionCalls location visit.machine.vm.handles) : EndToEnd visit := by
  by_cases hstring : visit.machine.vm.handles.newString = 0
  · rw [if_pos hstring] at hanswer
    exact of_unconstructed hgrants hbinding hinspection (.inl hstring) hanswer hcalls
  rw [if_neg hstring] at hanswer
  by_cases hnull : visit.machine.vm.handles.newObject = 0
  · rw [hnull, Handle.nonNull?_zero] at hanswer
    exact of_unconstructed hgrants hbinding hinspection (.inr hnull) hanswer hcalls
  rw [Handle.nonNull?_of_ne hnull] at hanswer
  obtain rfl := Vm.eq_of_binding?_eq_some hbinding
  exact of_constructed hgrants hbinding hinspection hinspected hstring hnull hanswer hcalls

end EndToEnd

/-- **The answer of a fresh resolver, whatever the machine**, the options and the class. -/
theorem Resolver.end_to_end (options : Options) (machine : Host) (owner : Handle) :
    EndToEnd ⟨ofOptions options, machine, owner⟩ := by
  generalize hvisit : (⟨ofOptions options, machine, owner⟩ : Visit) = visit
  have hcapability : visit.resolver.capability = .fresh := by
    rw [← hvisit]
    rfl
  have hfresh : visit.resolver.binder.binding = .fresh := by
    rw [← hvisit]
    rfl
  have hgrants := Visit.exists_environment_iff hcapability
  have hbound := (visit.ran_binding.2 hfresh).1
  have hinspected := visit.ran_inspection.2
  cases visit.course with
  | refused hnegotiation hrun =>
    have hnot : ¬ visit.machine.Grants := by
      rw [← hgrants, hnegotiation]
      nofun
    refine EndToEnd.of_refused hnot (by rw [Visit.answer, hrun]) ?_
    intro stage hstage
    rw [Visit.callsIn_eq, hrun, visit.negotiation_callsIn_eq_nil hstage]
  | unbound hnegotiation hbinding hrun =>
    rw [hbound] at hbinding
    refine EndToEnd.of_unbound (hgrants.mp ⟨_, hnegotiation⟩) hbinding
      (by rw [Visit.answer, hrun]) ?_
    intro stage hstage
    rw [Visit.callsIn_eq, hrun, visit.binding_callsIn_eq_nil hstage]
  | unlocated hnegotiation hbinding hinspection hrun =>
    rw [hbound] at hbinding
    rw [hinspection] at hinspected
    refine EndToEnd.of_unlocated (hgrants.mp ⟨_, hnegotiation⟩) hbinding hinspection hinspected
      (by rw [Visit.answer, hrun]) ?_
    intro stage hstage
    rw [Visit.callsIn_eq, hrun, visit.inspection_callsIn_eq_nil hstage]
  | @located _ binding location hnegotiation hbinding hinspection hrun =>
    rw [hbound] at hbinding
    rw [hinspection] at hinspected
    obtain ⟨-, hobject, hcalls⟩ := visit.ran_construction binding location
    refine EndToEnd.of_located (hgrants.mp ⟨_, hnegotiation⟩) hbinding hinspection ?_ ?_ ?_
    · -- making the object adds no call to the inspection
      rw [Visit.callsIn_eq, hrun, visit.construction_callsIn _ _ .inspection (by decide)]
      exact hinspected
    · rw [Visit.answer, hrun, ← hobject]
    · rw [Visit.callsIn_eq, hrun, hcalls]

end ClosureSpan
