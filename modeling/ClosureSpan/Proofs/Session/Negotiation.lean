import ClosureSpan.Proofs.Session.Listeners
import ClosureSpan.Proofs.Session.Outcome

/-!
# The course of a negotiation

A negotiation asks for a tool environment, then which capabilities there are, then for all of them,
and then which were granted.  It stops at the first of these calls that fails, and a function that
is not there fails without being called.

What is there, what is asked for and what is granted are three sets that the machine may choose as
it likes.  It is the last one that decides.

## Main definitions

* `Vm.Passes`, `Vm.Lacks` — a call that succeeds, and one that cannot be made.
* `UpToFailure vm due made` — the calls that are due up to the first that fails.
* `Negotiated` — what is said of a negotiation.

## Main results

* `Negotiation.upToFailure_attempt_bind` — one step, and those behind it.
* `negotiation_is_sound_and_complete` — **a negotiation is sound and complete, and stops at the
  first failure.**
-/

namespace ClosureSpan

variable {α β : Type} {vm : Vm} {call : Call} {due made : List Call}

/-! ### Calls of a negotiation -/

/-- The function of the tool interface that is called in a negotiation.  The environment is asked
for elsewhere. -/
def Call.function? : Call → Option ToolFunction
  | .getPotentialCapabilities => some .getPotentialCapabilities
  | .addCapabilities _ => some .addCapabilities
  | .getCapabilities => some .getCapabilities
  | _ => none

/-- The call of a negotiation succeeds. -/
inductive Vm.Passes (vm : Vm) : Call → Prop
  /-- There is an environment. -/
  | environment (version : Nat) (hresult : vm.environmentResult = 0)
    (hpresent : vm.nullEnvironment = false) : Passes vm (.getEnvironment version)
  /-- The function is there and succeeds. -/
  | function {call : Call} {function : ToolFunction} (hcall : call.function? = some function)
    (hanswers : vm.Answers function) : Passes vm call

/-- The call cannot be made. -/
def Vm.Lacks (vm : Vm) (call : Call) : Prop :=
  ∃ function ∈ vm.missing, call.function? = some function

/-- The calls that are due are made up to the first that fails. -/
inductive UpToFailure (vm : Vm) : List Call → List Call → Prop
  /-- None of them failed. -/
  | done : UpToFailure vm [] []
  /-- The call succeeds, and the rest goes on. -/
  | passed {call : Call} {due made : List Call} (hcall : vm.Passes call)
    (hrest : UpToFailure vm due made) : UpToFailure vm (call :: due) (call :: made)
  /-- The call fails, and no other is made. -/
  | failed {call : Call} (hthere : ¬ vm.Lacks call) (hcall : ¬ vm.Passes call)
    (due : List Call) : UpToFailure vm (call :: due) [call]
  /-- The call cannot be made, and no other is made. -/
  | lacking {call : Call} (hcall : vm.Lacks call) (due : List Call) :
    UpToFailure vm (call :: due) []

namespace UpToFailure

theorem isPrefix (h : UpToFailure vm due made) : made <+: due := by
  induction h with
  | done => exact List.prefix_refl _
  | passed _ _ ih => exact (List.prefix_cons_inj _).mpr ih
  | failed _ _ due => exact ⟨due, rfl⟩
  | lacking _ due => exact List.nil_prefix

/-- If no call fails, all are made. -/
theorem eq_of_passes (h : UpToFailure vm due made) (hall : ∀ call ∈ due, vm.Passes call) :
    made = due := by
  induction h with
  | done => rfl
  | passed _ _ ih => rw [ih fun call hcall => hall call (List.mem_cons_of_mem _ hcall)]
  | failed _ hcall => exact absurd (hall _ List.mem_cons_self) hcall
  | lacking hcall =>
    -- a function that is there is not missing
    obtain ⟨function, hmissing, hfunction⟩ := hcall
    cases hall _ List.mem_cons_self with
    | environment => cases hfunction
    | function hfunction' hanswers =>
      cases hfunction.symm.trans hfunction'
      exact absurd hmissing hanswers.1

end UpToFailure

theorem Vm.lacks_iff {function : ToolFunction} (h : call.function? = some function) :
    vm.Lacks call ↔ function ∈ vm.missing := by
  constructor
  · rintro ⟨other, hmissing, hother⟩
    cases h.symm.trans hother
    exact hmissing
  · intro hmissing
    exact ⟨function, hmissing, h⟩

theorem Vm.passes_iff {function : ToolFunction} (h : call.function? = some function) :
    vm.Passes call ↔ vm.Answers function := by
  constructor
  · intro hpasses
    cases hpasses with
    | environment => cases h
    | function hother hanswers =>
      cases h.symm.trans hother
      exact hanswers
  · exact .function h

theorem Vm.passes_getEnvironment_iff {version : Nat} :
    vm.Passes (.getEnvironment version) ↔
      vm.environmentResult = 0 ∧ vm.nullEnvironment = false := by
  constructor
  · intro hpasses
    cases hpasses with
    | environment _ hresult hpresent => exact ⟨hresult, hpresent⟩
    | function hfunction => cases hfunction
  · rintro ⟨hresult, hpresent⟩
    exact .environment version hresult hpresent

/-! ### What is called -/

/-- The calls that are due are made up to the first that fails, and then perhaps those for the
name of a status. -/
def Courses (vm : Vm) (due : List Call) (x : HostM α) : Prop :=
  ∀ host, host.vm = vm → ∃ made status named,
    (x.run host).2.calls = host.calls ++ made ++ named ∧ UpToFailure vm due made ∧
      Asked status named

namespace Negotiation

/-- A step makes its call if it can, and the steps behind it are for when it succeeds. -/
theorem upToFailure_attempt_bind {name : String} {function : ToolFunction} {entry : Call}
    {answer : Vm → ToolM α} {f : α → OptionT HostM β} (Value : α → Prop)
    (hentry : entry.function? = some function)
    (hanswer : ∀ host, ∃ a host', (answer vm).run.run host = (.ok a, host') ∧ Value a ∧
      host'.calls = host.calls ∧ host'.vm = host.vm)
    (hf : ∀ a, Value a → Courses vm due (f a).run) :
    Courses vm (entry :: due)
      (attempt name (Tool.call function entry answer) >>= f).run := by
  rintro host rfl
  have hcalls : (host.entered entry).calls = host.calls ++ [entry] := host.calls_entered entry
  obtain ⟨a, mid, hrun, ha, hmid, hvm⟩ := hanswer (host.entered entry)
  rcases run_attempt_bind_cases hrun f with
    ⟨hmissing, heq⟩ | ⟨hpresent, hfails, heq⟩ | ⟨hpresent, hsuccess, heq⟩ <;> rw [heq]
  · obtain ⟨named, hnamed, -, hasked⟩ := calls_warnFailed name Status.notAvailable host
    refine ⟨[], _, named, ?_, .lacking ((Vm.lacks_iff hentry).mpr hmissing) due, hasked⟩
    rw [List.append_nil]
    exact hnamed
  · obtain ⟨named, hnamed, -, hasked⟩ :=
      calls_warnFailed name (host.vm.statusOf function) (host.entered entry)
    refine ⟨[entry], _, named, ?_, .failed ?_ ?_ due, hasked⟩
    · rw [← hcalls]
      exact hnamed
    · rw [Vm.lacks_iff hentry]
      exact hpresent
    · rw [Vm.passes_iff hentry]
      exact fun hanswers => hfails hanswers.2
  · obtain ⟨made, status, named, hrest, hmade, hasked⟩ := hf a ha mid hvm
    refine ⟨entry :: made, status, named, ?_, .passed ?_ hmade, hasked⟩
    · rw [hrest, hmid, hcalls, List.append_cons host.calls entry made]
    · exact (Vm.passes_iff hentry).mpr ⟨hpresent, hsuccess⟩

theorem courses_accept (granted : CapabilitySet) : Courses vm [] (accept granted).run := by
  intro host _
  refine ⟨[], Status.success, [], ?_, .done, .none⟩
  rw [List.append_nil, List.append_nil]
  unfold accept
  rw [OptionT.run_mk]
  split
  next => exact Host.calls_report _ host
  next => exact Host.calls_report _ host

theorem courses_afterOpening :
    Courses vm [.getPotentialCapabilities, .addCapabilities vm.potential, .getCapabilities]
      afterOpening.run := by
  have hpotential : ∀ host : Host, (pure vm.potential : ToolM CapabilitySet).run.run host =
      (.ok vm.potential, host) := fun _ => rfl
  refine upToFailure_attempt_bind (fun potential => potential = vm.potential) rfl
    (fun host => ⟨_, host, hpotential host, rfl, rfl, rfl⟩) ?_
  rintro _ rfl
  refine upToFailure_attempt_bind (fun _ => True) rfl
    (fun host => ⟨_, _, rfl, trivial, rfl, rfl⟩) fun _ _ => ?_
  refine upToFailure_attempt_bind (fun _ => True) rfl
    (fun host => ⟨_, _, rfl, trivial, rfl, rfl⟩) fun granted _ => ?_
  exact courses_accept granted

/-- The environment is asked for first, and nothing else without one. -/
theorem courses_negotiate : Courses vm (protocol vm.potential) (negotiate true) := by
  rintro host rfl
  have hopened := host.calls_entered (.getEnvironment Tool.version)
  rcases run_negotiate_cases host with ⟨hfails, event, heq⟩ | ⟨henvironment, heq⟩ <;> rw [heq]
  · have hthere : ¬ host.vm.Lacks (.getEnvironment Tool.version) := by
      rintro ⟨function, -, hfunction⟩
      cases hfunction
    have hcall : ¬ host.vm.Passes (.getEnvironment Tool.version) :=
      fun hpasses => hfails (Vm.passes_getEnvironment_iff.mp hpasses)
    refine ⟨_, Status.success, [], ?_, .failed hthere hcall _, .none⟩
    rw [List.append_nil, ← hopened]
    exact Host.calls_report event _
  · obtain ⟨made, status, named, hrest, hmade, hasked⟩ :=
      courses_afterOpening (host.entered (.getEnvironment Tool.version)) rfl
    have hcall : host.vm.Passes (.getEnvironment Tool.version) :=
      Vm.passes_getEnvironment_iff.mpr henvironment
    refine ⟨_ :: made, status, named, ?_, .passed hcall hmade, hasked⟩
    rw [List.append_cons host.calls, ← hopened]
    exact hrest

end Negotiation

/-! ### Negotiations -/

/-- What is said of a negotiation: its outcome, and the calls that it makes but for the name of a
status. -/
structure Negotiated (host : Host) (reachable : Bool) (outcome : Option Environment)
    (made : List Call) : Prop where
  /-- There is an environment if the machine is there, all calls succeed, and line tables are among
  what is reported as granted. -/
  some_iff : ∀ environment, outcome = some environment ↔
    reachable = true ∧ (host.vm.environmentResult = 0 ∧ host.vm.nullEnvironment = false) ∧
    host.vm.Answers .getPotentialCapabilities ∧ host.vm.Answers .addCapabilities ∧
    host.vm.Answers .getCapabilities ∧
    host.reported.has CapabilitySet.lineNumbersBit = true ∧ ⟨host.reported⟩ = environment
  /-- Then all calls were made. -/
  complete : ∀ environment, outcome = some environment →
    made = Negotiation.protocol host.vm.potential
  /-- A machine that is not there is not called. -/
  unreachable : reachable = false → made = []
  /-- The calls are made up to the first that fails. -/
  upToFailure : reachable = true →
    UpToFailure host.vm (Negotiation.protocol host.vm.potential) made
  /-- So they are a beginning of all of them. -/
  isPrefix : made <+: Negotiation.protocol host.vm.potential
  /-- None is made twice. -/
  once : made.Nodup
  /-- Exactly what there is is asked for. -/
  wanted : ∀ wanted, .addCapabilities wanted ∈ made → wanted = host.vm.potential

theorem Negotiation.nodup_protocol (potential : CapabilitySet) : (protocol potential).Nodup := by
  simp [protocol]

/-- All calls succeed if there is an environment. -/
theorem Negotiation.passes_of_some {host : Host} {environment : Environment}
    (h : ((negotiate true).run host).1 = some environment) :
    ∀ call ∈ protocol host.vm.potential, host.vm.Passes call := by
  obtain ⟨henvironment, hpotential, hadd, hanswers, -⟩ := negotiate_eq_some_iff.mp h
  simp only [protocol, List.forall_mem_cons, List.not_mem_nil, false_imp_iff, implies_true,
    and_true]
  exact ⟨Vm.passes_getEnvironment_iff.mpr henvironment, .function rfl hpotential,
    .function rfl hadd, .function rfl hanswers⟩

/-- **A negotiation is sound and complete, and stops at the first failure.** -/
theorem negotiation_is_sound_and_complete (reachable : Bool) (host : Host) :
    ∃ made status named,
      ((negotiate reachable).run host).2.calls = host.calls ++ made ++ named ∧
      Asked status named ∧ Negotiated host reachable ((negotiate reachable).run host).1 made := by
  cases reachable with
  | false =>
    refine ⟨[], Status.success, [], ?_, .none, ?_⟩
    · rw [List.append_nil, List.append_nil]
      exact Host.calls_report _ host
    · exact {
        some_iff := fun _ => by simp [negotiate]
        complete := nofun
        unreachable := fun _ => rfl
        upToFailure := nofun
        isPrefix := List.nil_prefix
        once := List.nodup_nil
        wanted := nofun }
  | true =>
    obtain ⟨made, status, named, hcalls, hmade, hasked⟩ := Negotiation.courses_negotiate host rfl
    refine ⟨made, status, named, hcalls, hasked, ?_⟩
    have hprefix := hmade.isPrefix
    constructor
    case some_iff =>
      intro environment
      rw [negotiate_eq_some_iff]
      exact (and_iff_right rfl).symm
    case complete => exact fun _ h => hmade.eq_of_passes (Negotiation.passes_of_some h)
    case unreachable => exact nofun
    case upToFailure => exact fun _ => hmade
    case isPrefix => exact hprefix
    case once => exact (Negotiation.nodup_protocol _).sublist hprefix.sublist
    case wanted =>
      intro wanted hwanted
      have hmem := hprefix.subset hwanted
      simpa [Negotiation.protocol] using hmem

/-- What can be granted does not count, nor what was asked for. -/
example : ((negotiate true).run { vm := { granted := some 0 } }).1 = none := by decide +kernel

end ClosureSpan
