import Mathlib.Data.List.Forall2
import ClosureSpan.Proofs.Session.Turns

/-!
# Listeners do not interfere

A script is run twice on the same machine, and the two runs differ in who listens to the events.
Listening shows in nothing but the events themselves and the names of statuses that go into them:
every step gives the same, leaves the same, and makes the same calls otherwise.

The names of statuses are asked for in negotiations, if anyone listens to warnings: once at most,
and right after the function that failed with the status.

## Main definitions

* `Turn.SameBut` — two turns that differ at most in events and names of statuses.
* `Vm.failure?` — the calls up to the first function that fails, and its status.
* `Asked` — the calls for the name of a status.
* `Turn.NamedIn` — a status that is named in a negotiation.

## Main results

* `Turn.sameBut` — one turn on two machines that are the same without their listeners.
* `negotiates_run` — outside one negotiation a step names no status.
* `names_negotiate` — a negotiation names the status that it fails with.
* `Session.logging_does_not_interfere` — **who listens makes no difference.**
-/

namespace ClosureSpan

variable {ε α β : Type}

/-- Whether the call has nothing to do with names of statuses. -/
abbrev Call.Plain (call : Call) : Prop := call.namesStatus = false

theorem givesBack_plain : GivesBack Call.Plain where
  memory _ h := h
  name _ h := nomatch h

/-! ### Two runs -/

/-- The calls but those for the names of statuses. -/
def Call.plain (calls : List Call) : List Call := calls.filter fun call => !call.namesStatus

/-- Two turns that differ at most in events and in calls for the names of statuses. -/
structure Turn.SameBut (turn other : Turn) : Prop where
  /-- They are for the same step. -/
  step : other.step = turn.step
  /-- They give the same answer. -/
  answer : other.answer = turn.answer
  /-- They leave the same session. -/
  after : other.after = turn.after
  /-- They leave the same exception pending. -/
  pending : other.left.pending = turn.left.pending
  /-- They make the same calls otherwise. -/
  calls : Call.plain other.calls = Call.plain turn.calls

namespace Turn

variable {turn other : Turn}

theorem bare_start (h : turn.machine.bare = other.machine.bare) :
    turn.start.bare = other.start.bare :=
  congrArg (fun host : Host => { host with journal := [] }) h

/-- A turn does the same on machines that are the same without their listeners. -/
theorem bare_run (session : Session) (step : Step) {machine machine' : Host}
    (h : machine.bare = machine'.bare) :
    (Turn.mk session machine step).run.1 = (Turn.mk session machine' step).run.1 ∧
      (Turn.mk session machine step).left.bare = (Turn.mk session machine' step).left.bare := by
  have hstart : (Turn.mk session machine step).start.bare =
      (Turn.mk session machine' step).start.bare := bare_start h
  by_cases hchange : step.Changes
  · cases step with
    | change vm pending =>
      refine ⟨rfl, ?_⟩
      exact congrArg
        (fun host : Host => { host with vm, pending := pending.getD host.pending }) hstart
    | _ => exact absurd hchange id
  · have hmoves : Manners Call.Any (Session.run step) :=
      Session.manners_run hchange (fun _ _ => trivial) fun _ _ => trivial
    exact (hmoves session).bare hstart

theorem sameBut (session : Session) (step : Step) {machine machine' : Host}
    (h : machine.bare = machine'.bare) :
    (Turn.mk session machine step).SameBut ⟨session, machine', step⟩ := by
  obtain ⟨hrun, hleft⟩ := bare_run session step h
  refine ⟨rfl, congrArg Prod.fst hrun.symm, congrArg Prod.snd hrun.symm, ?_, ?_⟩
  · rw [← Host.bare_pending, ← hleft, Host.bare_pending]
  · unfold Call.plain calls
    rw [← Host.calls_bare, ← Host.calls_bare, hleft]

end Turn

/-- The turns of two runs differ at most in events and names of statuses. -/
theorem Session.forall₂_turns (session : Session) (steps : List Step) {machine machine' : Host}
    (h : machine.bare = machine'.bare) :
    List.Forall₂ Turn.SameBut (turns session machine steps) (turns session machine' steps) := by
  induction steps generalizing session machine machine' with
  | nil => exact .nil
  | cons step steps ih =>
    obtain ⟨hrun, hleft⟩ := Turn.bare_run session step h
    have hafter : (Turn.mk session machine step).after = (Turn.mk session machine' step).after :=
      congrArg Prod.snd hrun
    rw [turns_cons, turns_cons, ← hafter]
    exact .cons (Turn.sameBut session step h) (ih _ hleft)

/-! ### Negotiations -/

/-- The functions of a negotiation with their calls, in order. -/
def Negotiation.functions (potential : CapabilitySet) : List (ToolFunction × Call) :=
  [(.getPotentialCapabilities, .getPotentialCapabilities),
    (.addCapabilities, .addCapabilities potential), (.getCapabilities, .getCapabilities)]

/-- The calls up to the first of these functions that fails, and the status that it fails with.  A
function that is not there fails without a call. -/
def Vm.failure? (vm : Vm) : List (ToolFunction × Call) → Option (List Call × Status)
  | [] => none
  | (function, call) :: rest =>
    if function ∈ vm.missing then some ([], Status.notAvailable)
    else if vm.statusOf function = Status.success then
      (vm.failure? rest).map fun (made, status) => (call :: made, status)
    else some ([call], vm.statusOf function)

/-- If a status is named among these calls, then someone listens, it is the status of the first of
the functions that fails, and it is named once, right after that function. -/
def NamesFailure (vm : Vm) (listened : Bool) (functions : List (ToolFunction × Call))
    (calls : List Call) : Prop :=
  ∀ status, .getErrorName status ∈ calls → listened = true ∧ ∃ made rest,
    vm.failure? functions = some (made, status) ∧ calls = made ++ .getErrorName status :: rest ∧
      ∀ call ∈ made ++ rest, ∀ other, call ≠ .getErrorName other

/-- The name of the status is not asked for, or it is asked for first. -/
def Naming (status : Status) (calls : List Call) : Prop :=
  calls = [] ∨ ∃ rest, calls = .getErrorName status :: rest ∧
    ∀ call ∈ rest, ∀ other, call ≠ .getErrorName other

/-- The calls for the name of a status: it is asked for, and given back if it was handed out. -/
inductive Asked (status : Status) : List Call → Prop
  /-- It is not asked for. -/
  | none : Asked status []
  /-- It is not handed out, or cannot be given back. -/
  | name : Asked status [.getErrorName status]
  /-- It is handed out and given back. -/
  | returned : Asked status [.getErrorName status, .deallocate (some (.errorName status))]

theorem Asked.naming {status : Status} {calls : List Call} (h : Asked status calls) :
    Naming status calls := by
  cases h with
  | none => exact .inl rfl
  | name => exact .inr ⟨_, rfl, by simp⟩
  | returned => exact .inr ⟨_, rfl, by simp⟩

theorem Host.Named.calls {status : Status} {host host' : Host} (h : host.Named status host') :
    ∃ named, host'.calls = host.calls ++ named ∧ Asked status named := by
  obtain ⟨made, hmade, -, hcalls⟩ := h.journal
  refine ⟨(made.map Entry.call).reverse, Host.calls_eq_append hmade, ?_⟩
  rcases hcalls with hnone | hname | hboth
  · rw [hnone]
    exact .none
  · rw [hname]
    exact .name
  · rw [hboth]
    exact .returned

/-- Whatever else is done, statuses are named for failures only. -/
def Warns (vm : Vm) (listened : Bool) (functions : List (ToolFunction × Call))
    (x : HostM α) : Prop :=
  ∀ host, host.vm = vm → Level.warn.admittedBy host.verbosity = listened →
    ∃ calls, (x.run host).2.calls = host.calls ++ calls ∧ NamesFailure vm listened functions calls

theorem Call.ne_getErrorName_of_plain {call : Call} (h : call.Plain) (status : Status) :
    call ≠ .getErrorName status := by
  rintro rfl
  cases h

namespace NamesFailure

variable {vm : Vm} {listened : Bool} {function : ToolFunction} {call : Call}
  {functions : List (ToolFunction × Call)} {calls : List Call}

theorem of_plain (h : ∀ call ∈ calls, call.Plain) : NamesFailure vm listened functions calls :=
  fun _ hname => nomatch h _ hname

/-- The function succeeds, and the rest goes on. -/
theorem passed (hcall : call.Plain) (hpresent : function ∉ vm.missing)
    (hsuccess : vm.statusOf function = Status.success)
    (h : NamesFailure vm listened functions calls) :
    NamesFailure vm listened ((function, call) :: functions) (call :: calls) := by
  intro status hname
  rcases List.mem_cons.mp hname with rfl | hname
  · cases hcall
  obtain ⟨hlistened, made, rest, hfailure, rfl, honce⟩ := h status hname
  refine ⟨hlistened, call :: made, rest, ?_, rfl, ?_⟩
  · rw [Vm.failure?, if_neg hpresent, if_pos hsuccess, hfailure]
    rfl
  · exact List.forall_mem_cons.mpr ⟨call.ne_getErrorName_of_plain hcall, honce⟩

/-- The function fails, and its status is named if someone listens. -/
theorem failed {made named : List Call} {status : Status} (hmade : ∀ call ∈ made, call.Plain)
    (hfailure : vm.failure? functions = some (made, status))
    (hlistened : named ≠ [] → listened = true) (hnamed : Naming status named) :
    NamesFailure vm listened functions (made ++ named) := by
  intro other hname
  rcases List.mem_append.mp hname with hname | hname
  · exact nomatch hmade _ hname
  rcases hnamed with rfl | ⟨rest, rfl, hrest⟩
  · cases hname
  -- the only status that is named is that of the failure
  rcases List.mem_cons.mp hname with heq | hname
  · cases heq
    refine ⟨hlistened (List.cons_ne_nil _ _), made, rest, hfailure, rfl, ?_⟩
    refine List.forall_mem_append.mpr ⟨fun call hcall => ?_, hrest⟩
    exact call.ne_getErrorName_of_plain (hmade call hcall)
  · exact absurd rfl (hrest _ hname other)

end NamesFailure

namespace Negotiation

variable {vm : Vm} {listened : Bool} {later : List (ToolFunction × Call)}

/-- The name of the status is asked for if someone listens. -/
theorem calls_warnFailed (name : String) (status : Status) (host : Host) :
    ∃ named, ((warnFailed name status).run host).2.calls = host.calls ++ named ∧
      (named ≠ [] → Level.warn.admittedBy host.verbosity = true) ∧ Asked status named := by
  obtain ⟨host', hrun, hnamed, hsilent⟩ := Host.run_reportName status .warn
    (fun name' =>
      { level := .warn, message := name ++ " failed", fields := [("error", .plain name')] })
    host
  obtain ⟨named, hcalls, hasked⟩ := hnamed.calls
  have hwarn : (warnFailed name status).run host = ((), host') := hrun
  rw [hwarn]
  by_cases hlevel : Level.warn.admittedBy host.verbosity = true
  · exact ⟨named, hcalls, fun _ => hlevel, hasked⟩
  · -- without a listener the machine is the same
    rw [hsilent (Bool.eq_false_iff.mpr hlevel)]
    exact ⟨[], (List.append_nil _).symm, fun h => absurd rfl h, .none⟩

/-- A step names its status, if it fails, and otherwise the negotiation goes on. -/
theorem warns_attempt_bind {name : String} {function : ToolFunction} {entry : Call}
    {answer : Vm → ToolM α} {f : α → OptionT HostM β} (Value : α → Prop) (hentry : entry.Plain)
    (hanswer : ∀ host, ∃ a host', (answer vm).run.run host = (.ok a, host') ∧ Value a ∧
      host'.calls = host.calls ∧ host'.vm = host.vm ∧ host'.verbosity = host.verbosity)
    (hf : ∀ a, Value a → Warns vm listened later (f a).run) :
    Warns vm listened ((function, entry) :: later)
      (attempt name (Tool.call function entry answer) >>= f).run := by
  rintro host rfl hlistened
  have hcalls : (host.entered entry).calls = host.calls ++ [entry] := host.calls_entered entry
  obtain ⟨a, mid, hrun, ha, hmid, hmidvm, hverbosity⟩ := hanswer (host.entered entry)
  rcases run_attempt_bind_cases hrun f with
    ⟨hmissing, heq⟩ | ⟨hpresent, hfails, heq⟩ | ⟨hpresent, hsuccess, heq⟩ <;> rw [heq]
  · obtain ⟨named, hnamed, hlevel, hasked⟩ := calls_warnFailed name Status.notAvailable host
    refine ⟨[] ++ named, hnamed, NamesFailure.failed (by simp) ?_ (fun h => ?_) hasked.naming⟩
    · rw [Vm.failure?, if_pos hmissing]
    · rw [← hlistened]
      exact hlevel h
  · obtain ⟨named, hnamed, hlevel, hasked⟩ :=
      calls_warnFailed name (host.vm.statusOf function) (host.entered entry)
    refine ⟨[entry] ++ named, ?_, NamesFailure.failed ?_ ?_ (fun h => ?_) hasked.naming⟩
    · rw [← List.append_assoc, ← hcalls]
      exact hnamed
    · exact fun call hcall => by rwa [List.mem_singleton.mp hcall]
    · rw [Vm.failure?, if_neg hpresent, if_neg hfails]
    · rw [← hlistened]
      exact hlevel h
  · have hmidlistened : Level.warn.admittedBy mid.verbosity = listened := by
      rw [hverbosity]
      exact hlistened
    obtain ⟨calls, hrest, hnames⟩ := hf a ha mid hmidvm hmidlistened
    refine ⟨entry :: calls, ?_, hnames.passed hentry hpresent hsuccess⟩
    rw [hmid, hcalls, List.append_assoc] at hrest
    exact hrest

/-- What names no status. -/
theorem warns_of_acts {x : HostM α} (h : Acts Call.Plain x) : Warns vm listened later x := by
  intro host _ _
  obtain ⟨calls, hcalls, hplain⟩ := (h.moved givesBack_plain host).calls
  exact ⟨calls, hcalls, .of_plain hplain⟩

/-- What is done with an environment that was opened. -/
def afterOpening : OptionT HostM Environment := do
  let potential ← attempt "GetPotentialCapabilities" Tool.potentialCapabilities
  attempt "AddCapabilities" (Tool.addCapabilities potential)
  let granted ← attempt "GetCapabilities" Tool.capabilities
  accept granted

/-- There is no environment, and then this is told; or the negotiation goes on with it. -/
theorem run_negotiate_cases (host : Host) :
    (¬ (host.vm.environmentResult = 0 ∧ host.vm.nullEnvironment = false) ∧ ∃ event,
      (negotiate true).run host =
        (none, ((Host.report event).run (host.entered (.getEnvironment Tool.version))).2)) ∨
    ((host.vm.environmentResult = 0 ∧ host.vm.nullEnvironment = false) ∧
      (negotiate true).run host =
        afterOpening.run.run (host.entered (.getEnvironment Tool.version))) := by
  have hrun : (negotiate true).run host =
      (openEnvironment >>= fun _ => afterOpening).run.run host := rfl
  rw [hrun, run_bind, openEnvironment, OptionT.run_mk, StateT.run_bind, Tool.run_openEnvironment]
  by_cases hresult : host.vm.environmentResult = 0
  · rw [if_neg (not_not_intro hresult)]
    cases hnull : host.vm.nullEnvironment with
    | true => exact .inl ⟨(fun h => nomatch h.2), _, rfl⟩
    | false => exact .inr ⟨⟨hresult, rfl⟩, rfl⟩
  · rw [if_pos hresult]
    exact .inl ⟨fun h => hresult h.1, _, rfl⟩

theorem warns_afterOpening :
    Warns vm listened (functions vm.potential) afterOpening.run := by
  have hpotential : ∀ host : Host, (pure vm.potential : ToolM CapabilitySet).run.run host =
      (.ok vm.potential, host) := fun _ => rfl
  refine warns_attempt_bind (fun potential => potential = vm.potential) rfl
    (fun host => ⟨_, host, hpotential host, rfl, rfl, rfl, rfl⟩) ?_
  rintro _ rfl
  refine warns_attempt_bind (fun _ => True) rfl
    (fun host => ⟨_, _, rfl, trivial, rfl, rfl, rfl⟩) fun _ _ => ?_
  refine warns_attempt_bind (fun _ => True) rfl
    (fun host => ⟨_, _, rfl, trivial, rfl, rfl, rfl⟩) fun granted _ => ?_
  exact warns_of_acts (acts_accept granted)

end Negotiation

/-- **A negotiation names the status that it fails with, once, and only to listeners.** -/
theorem names_negotiate (reachable : Bool) (host : Host) :
    ∃ calls, ((negotiate reachable).run host).2.calls = host.calls ++ calls ∧
      ∀ status, .getErrorName status ∈ calls →
        Level.warn.admittedBy host.verbosity = true ∧ ∃ made rest,
          host.vm.failure? (Negotiation.functions host.vm.potential) = some (made, status) ∧
          calls = .getEnvironment Tool.version :: made ++ .getErrorName status :: rest ∧
            ∀ call ∈ made ++ rest, ∀ other, call ≠ .getErrorName other := by
  cases reachable with
  | false =>
    have hacts : Acts Call.Plain (negotiate false) := Acts.bind (.report _) fun _ => Acts.pure _
    obtain ⟨calls, hcalls, hplain⟩ := (hacts.moved givesBack_plain host).calls
    exact ⟨calls, hcalls, fun _ hname => nomatch hplain _ hname⟩
  | true =>
    have hopened := host.calls_entered (.getEnvironment Tool.version)
    rcases Negotiation.run_negotiate_cases host with ⟨-, event, heq⟩ | ⟨-, heq⟩ <;> rw [heq]
    · -- an environment that cannot be opened is reported by its code, not by a name
      exact ⟨[.getEnvironment Tool.version], (Host.calls_report event _).trans hopened, by simp⟩
    · obtain ⟨calls, hcalls, hnames⟩ := Negotiation.warns_afterOpening
        (host.entered (.getEnvironment Tool.version)) rfl rfl
      rw [hopened, List.append_assoc] at hcalls
      refine ⟨.getEnvironment Tool.version :: calls, hcalls, fun status hname => ?_⟩
      rcases List.mem_cons.mp hname with heq | hname
      · cases heq
      obtain ⟨hlistened, made, rest, hfailure, rfl, honce⟩ := hnames status hname
      exact ⟨hlistened, made, rest, hfailure, rfl, honce⟩

/-! ### Where statuses are named -/

/-- Nothing is named but in one negotiation. -/
def Negotiates (x : HostM α) : Prop :=
  ∀ host : Host, host.Moved Call.Plain (x.run host).2 ∨ ∃ reachable mid,
    host.Moved Call.Plain mid ∧ ((negotiate reachable).run mid).2.Moved Call.Plain (x.run host).2

namespace Negotiates

theorem of_acts {x : HostM α} (h : Acts Call.Plain x) : Negotiates x :=
  fun host => .inl (h.moved givesBack_plain host)

theorem negotiate (reachable : Bool) : Negotiates (negotiate reachable) :=
  fun host => .inr ⟨reachable, host, .refl host, .refl _⟩

theorem bind {x : HostM α} {f : α → HostM β} (h : Negotiates x)
    (hf : ∀ a, Acts Call.Plain (f a)) : Negotiates (x >>= f) := by
  intro host
  have hrest := (hf (x.run host).1).moved givesBack_plain (x.run host).2
  rw [Host.run_bind]
  rcases h host with hx | ⟨reachable, mid, hmid, hx⟩
  · exact .inl (hx.trans hrest)
  · exact .inr ⟨reachable, mid, hmid, hx.trans hrest⟩

/-- First something is done that names nothing. -/
theorem acts_bind {x : HostM α} {f : α → HostM β} (h : Acts Call.Plain x)
    (hf : ∀ a, Negotiates (f a)) : Negotiates (x >>= f) := by
  intro host
  have hx := h.moved givesBack_plain host
  rw [Host.run_bind]
  rcases hf (x.run host).1 (x.run host).2 with hrest | ⟨reachable, mid, hmid, hrest⟩
  · exact .inl (hx.trans hrest)
  · exact .inr ⟨reachable, mid, hx.trans hmid, hrest⟩

end Negotiates

theorem Latch.negotiates_settle (latch : Latch Environment) (reachable : Bool) :
    Negotiates (latch.settle (negotiate reachable)) := by
  cases latch with
  | fresh =>
    rw [settle_fresh, ← bind_pure_comp]
    exact (Negotiates.negotiate reachable).bind fun _ => Acts.pure _
  | unavailable => exact .of_acts (Acts.pure _)
  | ready environment => exact .of_acts (Acts.pure _)

theorem Resolver.negotiates_resolveClass (resolver : Resolver) (owner : Handle) :
    Negotiates (resolver.resolveClass owner) := by
  rw [resolveClass_eq]
  refine Negotiates.acts_bind (Native.acts_javaVm rfl) fun reachable => ?_
  have hacquire : Negotiates (resolver.acquire reachable) :=
    (resolver.capability.negotiates_settle reachable).bind fun _ => Acts.pure _
  exact hacquire.bind fun acquired => (acquired.moves_afterAcquire (fun _ h => h) owner).acts

namespace Session

/-- Nothing is named but in one negotiation, whatever the session. -/
def Negotiating (x : SessionM α) : Prop := ∀ session, Negotiates (x.run session)

namespace Negotiating

theorem bind {x : SessionM α} {f : α → SessionM β} (h : Negotiating x)
    (hf : ∀ a, Manners Call.Plain (f a)) : Negotiating (x >>= f) := by
  intro session
  rw [StateT.run_bind]
  exact (h session).bind fun (a, session) => hf a session

theorem get_bind {f : Session → SessionM α} (hf : ∀ session, Negotiating (f session)) :
    Negotiating (get >>= f) := fun session => hf session session

theorem lift {x : HostM α} (h : Negotiates x) : Negotiating (liftM x) :=
  fun session => h.bind fun a => Acts.pure (a, session)

theorem settle (latch : Latch Environment) (reachable : Bool) :
    Negotiating (latch.settle (liftM (negotiate reachable) : SessionM (Option Environment))) := by
  cases latch with
  | fresh =>
    rw [Latch.settle_fresh, ← bind_pure_comp]
    exact (lift (Negotiates.negotiate reachable)).bind fun _ => Manners.pure _
  | unavailable => exact fun _ => .of_acts (Acts.pure _)
  | ready environment => exact fun _ => .of_acts (Acts.pure _)

end Negotiating

/-- Outside one negotiation a step names no status, unless it is a step for that. -/
theorem negotiating_run {step : Step} (hchange : ¬ step.Changes)
    (hname : ∀ status, step ≠ .errorName status) : Negotiating (run step) := by
  by_cases hmay : step.MayName
  · cases step with
    | acquire reachable =>
      refine Negotiating.get_bind fun session => ?_
      exact (Negotiating.settle _ reachable).bind fun _ =>
        (Manners.set _).bind fun _ => Manners.pure _
    | negotiate reachable =>
      exact (Negotiating.lift (Negotiates.negotiate reachable)).bind fun _ => Manners.pure _
    | errorName status => exact absurd rfl (hname status)
    | resolveClass owner =>
      refine Negotiating.get_bind fun session => ?_
      refine (Negotiating.lift (session.resolver.negotiates_resolveClass owner)).bind
        fun (outcome, resolver) => ?_
      refine (Manners.set _).bind fun _ => ?_
      cases outcome <;> exact Manners.pure _
    | _ => exact hmay.elim
  · exact fun session =>
      .of_acts (manners_run hchange (fun _ h => h) (fun h => absurd h hmay) session)

end Session

/-- In this turn a status is named by a negotiation, which finds the machine as `mid`: someone
listens to warnings, the status is that of the first function that fails, it is named right after
that function, and no status is named otherwise. -/
structure Turn.NamedIn (turn : Turn) (status : Status) (reachable : Bool) (mid : Host)
    (made rest later : List Call) : Prop where
  /-- The step is one that may negotiate. -/
  step : turn.step.MayName
  /-- The machine answers as the turn has found it. -/
  machine : mid.vm = turn.machine.vm
  /-- Someone listens to warnings. -/
  listened : Level.warn.admittedBy mid.verbosity = true
  /-- A function of the negotiation fails with the status. -/
  failure : mid.vm.failure? (Negotiation.functions mid.vm.potential) = some (made, status)
  /-- The negotiation names the status after the calls that lead to the failure. -/
  negotiation : ((negotiate reachable).run mid).2.calls =
    mid.calls ++ (.getEnvironment Tool.version :: made ++ .getErrorName status :: rest)
  /-- The calls of the turn are those so far, and those that follow. -/
  calls : turn.calls = ((negotiate reachable).run mid).2.calls ++ later
  /-- No status is named otherwise. -/
  once : ∀ call ∈ mid.calls ++ (made ++ rest) ++ later, ∀ other, call ≠ .getErrorName other

namespace Turn

variable {turn : Turn}

/-- A change of the machine makes no calls. -/
theorem calls_of_changes (h : turn.step.Changes) : turn.calls = [] := by
  obtain ⟨session, machine, step⟩ := turn
  cases step with
  | change vm pending => rfl
  | _ => exact h.elim

/-- A status is named in a negotiation, unless the step asks for its name. -/
theorem namedIn (hstep : ∀ status, turn.step ≠ .errorName status) {status : Status}
    (hname : .getErrorName status ∈ turn.calls) :
    ∃ reachable mid made rest later, turn.NamedIn status reachable mid made rest later ∧
      mid.verbosity = turn.machine.verbosity := by
  have hchange : ¬ turn.step.Changes := by
    intro hchange
    rw [calls_of_changes hchange] at hname
    cases hname
  have hmay : turn.step.MayName := by
    by_contra hmay
    have hmoves := Session.manners_run hchange (fun _ h => h) (fun h => absurd h hmay) turn.session
    obtain ⟨calls, hcalls, hall⟩ := (hmoves.moved givesBack_plain turn.start).calls
    have hturn : turn.calls = calls := hcalls
    rw [hturn] at hname
    exact nomatch hall _ hname
  have hnone : turn.start.calls = [] := rfl
  have hplain : ∀ calls : List Call, (∀ call ∈ calls, call.Plain) →
      ∀ call ∈ calls, ∀ other, call ≠ .getErrorName other :=
    fun calls h call hcall => call.ne_getErrorName_of_plain (h call hcall)
  -- `mid` is the machine as the negotiation of the turn finds it
  rcases Session.negotiating_run hchange hstep turn.session turn.start with
    hmoved | ⟨reachable, mid, hbefore, hafter⟩
  · obtain ⟨calls, hcalls, hall⟩ := hmoved.calls
    have hturn : turn.calls = calls := hcalls
    rw [hturn] at hname
    exact nomatch hall _ hname
  obtain ⟨before, hmid, hbeforeplain⟩ := hbefore.calls
  obtain ⟨later, hlater, hlaterplain⟩ := hafter.calls
  obtain ⟨calls, hnegotiation, hnames⟩ := names_negotiate reachable mid
  rw [hnone, List.nil_append] at hmid
  have hturn : turn.calls = mid.calls ++ calls ++ later := by
    rw [← hnegotiation]
    exact hlater
  -- neither what is done before the negotiation nor what follows names a status
  have hin : .getErrorName status ∈ calls := by
    rw [hturn, List.mem_append, List.mem_append] at hname
    rcases hname with (hname | hname) | hname
    · rw [hmid] at hname
      exact nomatch hbeforeplain _ hname
    · exact hname
    · exact nomatch hlaterplain _ hname
  obtain ⟨hlistened, made, rest, hfailure, rfl, honce⟩ := hnames status hin
  refine ⟨reachable, mid, made, rest, later, ⟨hmay, hbefore.vm, hlistened, hfailure, hnegotiation,
    hlater, ?_⟩, hbefore.verbosity⟩
  rw [hmid]
  exact List.forall_mem_append.mpr ⟨List.forall_mem_append.mpr ⟨hplain _ hbeforeplain, honce⟩,
    hplain _ hlaterplain⟩

end Turn

namespace Session

/-- The same listeners are there in every turn. -/
theorem verbosity_of_mem_turns (session : Session) (machine : Host) (steps : List Step) :
    ∀ turn ∈ turns session machine steps, turn.machine.verbosity = machine.verbosity := by
  induction steps generalizing session machine with
  | nil => simp [turns]
  | cons step steps ih =>
    let first : Turn := ⟨session, machine, step⟩
    have hleft : first.left.verbosity = machine.verbosity := by
      by_cases hchange : step.Changes
      · cases step with
        | change vm pending => rfl
        | _ => exact hchange.elim
      · exact (first.moved hchange).verbosity
    rw [turns_cons]
    refine List.forall_mem_cons.mpr ⟨rfl, fun turn hturn => ?_⟩
    exact (ih _ _ turn hturn).trans hleft

/-- **Who listens makes no difference.**  A script that is run with two sets of listeners takes the
same turns: each gives the same, leaves the same session and the same exception pending, and makes
the same calls but those for names of statuses.  And unless a step asks for the name of a status,
one is named only in a negotiation, only if someone listens to warnings, once, and right after the
function that fails with the status. -/
theorem logging_does_not_interfere (vm : Vm) (pending : Bool) (options : Options)
    (steps : List Step) (one other : Option Level) :
    List.Forall₂ Turn.SameBut (turns (ofOptions options) { vm, pending, verbosity := one } steps)
        (turns (ofOptions options) { vm, pending, verbosity := other } steps) ∧
      ∀ turn ∈ turns (ofOptions options) { vm, pending, verbosity := one } steps,
        (∀ status, turn.step ≠ .errorName status) →
        ∀ status, .getErrorName status ∈ turn.calls →
          Level.warn.admittedBy one = true ∧ ∃ reachable mid made rest later,
            turn.NamedIn status reachable mid made rest later := by
  refine ⟨forall₂_turns _ steps rfl, ?_⟩
  intro turn hturn hstep status hname
  obtain ⟨reachable, mid, made, rest, later, hnamed, hverbosity⟩ := Turn.namedIn hstep hname
  have hone : mid.verbosity = one :=
    hverbosity.trans (verbosity_of_mem_turns _ _ _ turn hturn)
  refine ⟨?_, reachable, mid, made, rest, later, hnamed⟩
  rw [← hone]
  exact hnamed.listened

/-- A machine that does not let capabilities be asked for, and has a name for that. -/
def refusing : Vm where
  status := [(.addCapabilities, 99)]
  errorNames := [(99, some [0x66])]

/-- The name is asked for and given back if someone listens to warnings. -/
example : (turns (ofOptions {}) { vm := refusing, verbosity := some .warn }
    [.negotiate true]).map Turn.calls =
      [[.getEnvironment Tool.version, .getPotentialCapabilities,
        .addCapabilities refusing.potential, .getErrorName 99,
        .deallocate (some (.errorName 99))]] := by decide +kernel

end Session
end ClosureSpan
