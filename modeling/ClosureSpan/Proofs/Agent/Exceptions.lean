import ClosureSpan.Agent.Script
import ClosureSpan.Proofs.Session.Turns

/-!
# No exception is left pending

While an exception is pending, native code may do little more than look after it.  Here it does
nothing else: every null that may come with an exception is followed by a look at the pending
exception before anything else is called.  When a class has been resolved, none is pending, not even
one that was there before.

## Main definitions

* `Entry.Careful` — a call that is made while no exception is pending, or that looks after one.
* `Careful before x After` — a computation that makes careful calls only, and what is pending
  afterwards.
* `AgentStep.Raisesless` — a step that raises no exception on its own.

## Main results

* `Binding.careful_lookUp`, `Binding.careful_construct` — each null is looked after in its place.
* `Agent.calm_run` — a step of an agent leaves no exception pending.
* `Agent.resolve_is_exception_clean` — **no exception is left pending, and none is neglected.**
-/

namespace ClosureSpan

variable {α β : Type}

/-! ### Careful computations -/

/-- The call is made while no exception is pending, or it looks after the pending exception. -/
def Entry.Careful (entry : Entry) : Prop :=
  entry.pending = true → entry.call = .exceptionCheck ∨ entry.call = .exceptionClear

/-- On a machine that tells of pending exceptions, and where one is pending or not as `before` has
it, the computation makes careful calls only.  `After` has for each result what is pending then. -/
def Careful (before : Bool) (x : HostM α) (After : α → Bool → Prop) : Prop :=
  ∀ host, host.pending = before → host.vm.trueByte ≠ 0 →
    After (x.run host).1 (x.run host).2.pending ∧ (x.run host).2.vm.trueByte ≠ 0 ∧
      ∃ made, (x.run host).2.journal = made ++ host.journal ∧ ∀ entry ∈ made, entry.Careful

namespace Careful

variable {before : Bool} {x : HostM α} {After : α → Bool → Prop}

theorem pure {a : α} (h : After a before) : Careful before (pure a) After := by
  rintro host rfl hbyte
  exact ⟨h, hbyte, [], rfl, by simp⟩

theorem mono {After' : α → Bool → Prop} (h : Careful before x After)
    (hmono : ∀ a after, After a after → After' a after) : Careful before x After' := by
  intro host hpending hbyte
  obtain ⟨hafter, hrest⟩ := h host hpending hbyte
  exact ⟨hmono _ _ hafter, hrest⟩

theorem bind {f : α → HostM β} {Later : β → Bool → Prop} (h : Careful before x After)
    (hf : ∀ a after, After a after → Careful after (f a) Later) :
    Careful before (x >>= f) Later := by
  intro host hpending hbyte
  obtain ⟨hafter, hbyte', made, hmade, hcareful⟩ := h host hpending hbyte
  obtain ⟨hlater, hbyte'', more, hmore, hcareful'⟩ := hf _ _ hafter _ rfl hbyte'
  rw [Host.run_bind]
  refine ⟨hlater, hbyte'', more ++ made, ?_, List.forall_mem_append.mpr ⟨hcareful', hcareful⟩⟩
  rw [hmore, hmade, List.append_assoc]

/-- First something is done that does not fail. -/
theorem lift_bind {ε : Type} {f : α → ExceptT ε HostM β} {Later : Except ε β → Bool → Prop}
    (h : Careful before x After)
    (hf : ∀ a after, After a after → Careful after (f a).run Later) :
    Careful before ((liftM x : ExceptT ε HostM α) >>= f).run Later :=
  bind (f := fun a => (f a).run) h hf

/-- The machine is looked at. -/
theorem get_bind {f : Host → HostM α}
    (hf : ∀ host, host.pending = before → host.vm.trueByte ≠ 0 → Careful before (f host) After) :
    Careful before (get >>= f) After :=
  fun host hpending hbyte => hf host hpending hbyte host hpending hbyte

theorem record {call : Call}
    (h : before = true → call = .exceptionCheck ∨ call = .exceptionClear) :
    Careful before (Host.record call) fun _ after => after = before := by
  rintro host rfl hbyte
  exact ⟨rfl, hbyte, [_], rfl, List.forall_mem_singleton.mpr h⟩

/-- A call while no exception is pending. -/
theorem call (call : Call) : Careful false (Host.record call) fun _ after => after = false :=
  record fun h => nomatch h

theorem setPending (pending : Bool) :
    Careful before (Host.setPending pending) fun _ after => after = pending :=
  fun _ _ hbyte => ⟨rfl, hbyte, [], rfl, by simp⟩

theorem report (event : Event) :
    Careful before (Host.report event) fun _ after => after = before := by
  intro host hpending hbyte
  rw [Host.run_report]
  exact ⟨hpending, hbyte, [], rfl, by simp⟩

/-- What raises and drops no exception is careful as long as none is pending. -/
theorem of_acts {May : Call → Prop} (h : Acts May x) (hfree : GivesBack May)
    (hmay : ¬ May .exceptionClear) : Careful false x fun _ after => after = false := by
  intro host hpending hbyte
  have hmoved := h.moved hfree host
  obtain ⟨made, hmade, hcalls⟩ := hmoved.journal
  -- only `setPending` changes what is pending, and it may do so only if exceptions may be cleared
  refine ⟨(hmoved.pending hmay).trans hpending, by rwa [hmoved.vm], made, hmade, ?_⟩
  intro entry hentry hraised
  rw [(hcalls entry hentry).2 hmay, hpending] at hraised
  cases hraised

end Careful

/-! ### Native functions -/

/-- An exception may be pending only if there is no result. -/
def RaisedByNull (result : Option α) (after : Bool) : Prop := after = true → result = none

theorem RaisedByNull.eq_false {a : α} {after : Bool} (h : RaisedByNull (some a) after) :
    after = false := by
  cases after with
  | false => rfl
  | true => exact nomatch h rfl

namespace Native

theorem careful_answered (handle : Handle) : Careful false (answered handle) RaisedByNull := by
  refine Careful.get_bind fun host _ _ => ?_
  split
  next hnull =>
    refine (Careful.setPending true).bind fun _ after _ => Careful.pure fun _ => ?_
    rw [hnull.1]
    rfl
  next => exact Careful.pure nofun

/-- A call, and an answer that the machine has for it. -/
theorem careful_record_answered (call : Call) (handle : Vm → Handle) :
    Careful false (do
      Host.record call
      answered (handle (← get).vm)) RaisedByNull := by
  refine (Careful.call call).bind ?_
  rintro _ _ rfl
  exact Careful.get_bind fun host _ _ => careful_answered (handle host.vm)

theorem careful_javaVm : Careful false javaVm fun _ after => after = false :=
  Careful.get_bind fun _ _ _ => (Careful.call _).bind fun _ _ hafter => Careful.pure hafter

theorem careful_findClass (name : String) : Careful false (findClass name) RaisedByNull := by
  unfold findClass
  split
  next => exact Careful.pure nofun
  next => exact careful_record_answered _ fun vm => vm.handles.foundClass

theorem careful_methodId (owner : Handle) (name signature : String) :
    Careful false (methodId owner name signature) RaisedByNull := by
  unfold methodId
  split
  next => exact careful_record_answered _ fun vm => vm.handles.foundMethod
  next => exact Careful.pure nofun

theorem careful_newString (text : String) : Careful false (newString text) RaisedByNull := by
  unfold newString
  split
  next => exact Careful.pure nofun
  next => exact careful_record_answered _ fun vm => vm.handles.newString

theorem careful_newGlobalRef (object : Handle) :
    Careful false (newGlobalRef object) RaisedByNull :=
  careful_record_answered _ fun vm => vm.handles.globalRef

theorem careful_newObject (owner constructor text : Handle) (start stop : Int) :
    Careful false (newObject owner constructor text start stop) RaisedByNull :=
  careful_record_answered _ fun vm => vm.handles.newObject

/-- **No exception is pending after it was looked after**, whatever byte the machine tells of it
with. -/
theorem careful_clearPendingException (before : Bool) :
    Careful before clearPendingException fun _ after => after = false := by
  have hcheck : Careful before exceptionCheck fun pending after =>
      pending = before ∧ after = before := by
    refine Careful.get_bind fun host hpending hbyte => ?_
    refine (Careful.record fun _ => .inl rfl).bind fun _ after hafter => Careful.pure ?_
    refine ⟨?_, hafter⟩
    rw [hpending]
    simp [hbyte]
  refine hcheck.bind fun pending after hpending => ?_
  obtain ⟨rfl, rfl⟩ := hpending
  cases after with
  | false => exact Careful.pure rfl
  | true =>
    have hclear : Careful true exceptionClear fun _ after => after = false :=
      (Careful.record fun _ => .inr rfl).bind fun _ _ _ => Careful.setPending false
    exact hclear.bind fun _ _ hafter => Careful.pure hafter

/-- A local reference is dropped while no exception is pending. -/
theorem careful_withLocalRef {object : Handle} {body : HostM α}
    (h : Careful false body fun _ after => after = false) :
    Careful false (withLocalRef object body) fun _ after => after = false := by
  have hdrop : Careful false (dropLocalRef object) fun _ after => after = false := by
    unfold dropLocalRef
    split
    next => exact Careful.pure rfl
    next object _ => exact Careful.call _
  refine h.bind ?_
  rintro a _ rfl
  exact hdrop.bind fun _ _ hafter => Careful.pure hafter

end Native

/-! ### The result class -/

namespace Binding

theorem careful_giveUp (before : Bool) (event : Event) :
    Careful before (giveUp event) fun _ after => after = false := by
  refine (Native.careful_clearPendingException before).bind ?_
  rintro _ _ rfl
  exact (Careful.report event).bind fun _ _ hafter => Careful.pure hafter

theorem careful_ofClass (className : String) (found : Handle) :
    Careful false (ofClass className found) fun _ after => after = false := by
  refine (Native.careful_methodId _ _ _).bind fun constructor after hconstructor => ?_
  cases constructor with
  | none => exact careful_giveUp after _
  | some constructor =>
    obtain rfl := hconstructor.eq_false
    refine (Native.careful_newGlobalRef found).bind fun owner after howner => ?_
    cases owner with
    | none => exact careful_giveUp after _
    | some owner =>
      obtain rfl := howner.eq_false
      exact (Careful.report _).bind fun _ _ hafter => Careful.pure hafter

/-- A look-up ends without a pending exception, wherever it fails. -/
theorem careful_lookUp (className : String) :
    Careful false (lookUp className) fun _ after => after = false := by
  refine (Native.careful_findClass className).bind fun found after hfound => ?_
  cases found with
  | none => exact careful_giveUp after _
  | some found =>
    obtain rfl := hfound.eq_false
    exact Native.careful_withLocalRef (careful_ofClass className found)

/-- Once there is a string, the construction ends without a pending exception. -/
theorem careful_ofString (binding : Binding) (location : Location) (text : Handle) :
    Careful false (Native.withLocalRef text do
      let object ← Native.newObject binding.owner binding.constructor text location.startLine
        location.endLine
      if object.isNone then let _ ← Native.clearPendingException
      Pure.pure object) fun _ after => after = false := by
  refine Native.careful_withLocalRef ?_
  refine (Native.careful_newObject _ _ _ _ _).bind fun object after hobject => ?_
  cases object with
  -- the exception is looked after before the string is dropped
  | none =>
    exact (Native.careful_clearPendingException after).bind fun _ _ hafter => Careful.pure hafter
  | some object => exact Careful.pure hobject.eq_false

/-- A construction leaves an exception pending only if there is no string. -/
theorem careful_construct (binding : Binding) (location : Location) :
    Careful false (construct binding location) RaisedByNull := by
  refine (Native.careful_newString _).bind fun text after htext => ?_
  cases text with
  -- nothing is looked after here, so whoever asked for the object has to
  | none => exact Careful.pure fun _ => rfl
  | some text =>
    obtain rfl := htext.eq_false
    refine (careful_ofString binding location text).mono fun _ _ hafter hraised => ?_
    rw [hafter] at hraised
    cases hraised

end Binding

/-! ### Resolvers -/

/-- Whoever asks about classes does not clear exceptions. -/
abbrev Call.LeavesExceptions (call : Call) : Prop := call ≠ .exceptionClear

theorem givesBack_leavesExceptions : GivesBack Call.LeavesExceptions :=
  ⟨fun _ _ => nofun, fun _ _ => nofun⟩

theorem Latch.careful_settle (latch : Latch α) {compute : HostM (Option α)}
    (h : Careful false compute fun _ after => after = false) :
    Careful false (latch.settle compute) fun _ after => after = false := by
  cases latch with
  | fresh =>
    rw [settle_fresh, ← bind_pure_comp]
    exact h.bind fun _ _ hafter => Careful.pure hafter
  | unavailable => exact Careful.pure rfl
  | ready value => exact Careful.pure rfl

namespace Resolver

theorem careful_answer (resolver : Resolver) (binding : Binding) (owner : Handle) :
    Careful false (resolver.answer binding owner).run fun _ _ => True := by
  have hacting : Tool.introspector.Acting Call.LeavesExceptions :=
    Tool.introspector_acting fun _ _ => nofun
  have hresolve := hacting.resolve resolver.entryMethod owner
  unfold answer
  rw [ExceptT.run_bind]
  refine (Careful.of_acts hresolve.acts givesBack_leavesExceptions (absurd rfl)).bind ?_
  rintro outcome _ rfl
  cases outcome with
  | error e => exact Careful.pure trivial
  | ok location =>
    refine Careful.lift_bind (binding.careful_construct location) fun object after _ => ?_
    cases object with
    | none => exact Careful.pure trivial
    | some object => exact Careful.pure trivial

/-- A visit of a resolver makes careful calls only. -/
theorem careful_resolveClass (resolver : Resolver) (owner : Handle) :
    Careful false (resolver.resolveClass owner) fun _ _ => True := by
  have hnegotiate : ∀ reachable,
      Careful false (negotiate reachable) fun _ after => after = false := by
    intro reachable
    have hacts : Acts Call.LeavesExceptions (negotiate reachable) :=
      acts_negotiate (fun call hcall => by rintro rfl; cases hcall) (fun _ => nofun) reachable
    exact Careful.of_acts hacts givesBack_leavesExceptions (absurd rfl)
  rw [resolveClass_eq]
  refine Native.careful_javaVm.bind ?_
  rintro reachable _ rfl
  have hacquire : Careful false (resolver.acquire reachable) fun _ after => after = false :=
    (resolver.capability.careful_settle (hnegotiate reachable)).bind fun _ _ hafter =>
      Careful.pure hafter
  refine hacquire.bind ?_
  rintro acquired _ rfl
  unfold afterAcquire
  split
  next => exact Careful.pure trivial
  next =>
    have hbind : Careful false acquired.bind fun _ after => after = false := by
      have hbinder := acquired.binder.binding.careful_settle
        (Binding.careful_lookUp acquired.binder.className)
      refine Careful.bind (x := acquired.binder.bind) ?_ fun _ _ hafter => Careful.pure hafter
      exact hbinder.bind fun _ _ hafter => Careful.pure hafter
    refine hbind.bind ?_
    rintro bound _ rfl
    split
    next => exact Careful.pure trivial
    next binding _ =>
      exact (bound.careful_answer binding owner).bind fun _ _ _ => Careful.pure trivial

end Resolver

/-! ### Agents -/

/-- A step that raises no exception on its own: a hook, or a change of the machine after which it
tells of exceptions. -/
def AgentStep.Raisesless : AgentStep → Prop
  | .script (.change vm pending) => vm.trueByte ≠ 0 ∧ pending ≠ some true
  | .script _ => False
  | _ => True

namespace Agent

/-- What is done with an agent makes careful calls only. -/
def Tended (before : Bool) (x : AgentM α) (After : α → Bool → Prop) : Prop :=
  ∀ agent, Careful before (x.run agent) fun run after => After run.1 after

/-- If no exception is pending, careful calls are made and none is pending afterwards. -/
abbrev Calm (x : AgentM α) : Prop := Tended false x fun _ after => after = false

namespace Tended

variable {before : Bool} {After : α → Bool → Prop}

theorem pure {a : α} (h : After a before) : Tended before (pure a) After := fun _ => Careful.pure h

theorem bind {x : AgentM α} {f : α → AgentM β} {Later : β → Bool → Prop}
    (h : Tended before x After) (hf : ∀ a after, After a after → Tended after (f a) Later) :
    Tended before (x >>= f) Later := by
  intro agent
  rw [StateT.run_bind]
  exact (h agent).bind fun (a, agent) after hafter => hf a after hafter agent

theorem get_bind {f : Agent → AgentM α} (hf : ∀ agent, Tended before (f agent) After) :
    Tended before (get >>= f) After := fun agent => hf agent agent

theorem set (agent : Agent) : Tended before (set agent) fun _ after => after = before :=
  fun _ => Careful.pure rfl

theorem modify (change : Agent → Agent) :
    Tended before (modify change) fun _ after => after = before := fun _ => Careful.pure rfl

theorem lift {x : HostM α} (h : Careful before x After) : Tended before (liftM x) After :=
  fun agent => Careful.bind (f := fun a => Pure.pure (a, agent)) h fun _ _ hafter =>
    Careful.pure hafter

theorem report (event : Event) :
    Tended before (liftM (Host.report event)) fun _ after => after = before :=
  lift (Careful.report event)

end Tended

namespace Calm

theorem pure (a : α) : Calm (pure a) := Tended.pure rfl

/-- One thing is done after the other, and no exception is pending in between. -/
theorem bind {x : AgentM α} {f : α → AgentM β} (h : Calm x) (hf : ∀ a, Calm (f a)) :
    Calm (x >>= f) := by
  refine Tended.bind h ?_
  rintro a _ rfl
  exact hf a

theorem report_bind (event : Event) {x : AgentM α} (h : Calm x) :
    Calm (liftM (Host.report event) >>= fun _ => x) := bind (Tended.report event) fun _ => h

end Calm

theorem calm_listen (directive : Option String) : Calm (listen directive) := by
  refine Tended.get_bind fun agent => ?_
  dsimp only
  split
  next =>
    refine Calm.bind (Tended.set _) fun _ => Tended.lift (x := modify _) ?_
    exact fun _ hpending hbyte => ⟨hpending, hbyte, [], rfl, by simp⟩
  next => exact Calm.pure _

theorem calm_install (options : Options) : Calm (install options) := by
  refine Tended.get_bind fun agent => ?_
  split
  next => exact Calm.pure _
  next => exact Calm.bind (Tended.set _) fun _ => Calm.pure _

theorem calm_currentOptions : Calm currentOptions :=
  Tended.get_bind fun _ => Calm.bind (Tended.set _) fun _ => Calm.pure _

theorem calm_currentResolver : Calm currentResolver := by
  refine Tended.get_bind fun agent => ?_
  split
  next => exact Calm.pure _
  next =>
    exact Calm.bind calm_currentOptions fun _ =>
      Calm.bind (Tended.modify _) fun _ => Calm.pure _

theorem calm_load : Calm load :=
  Calm.bind (calm_listen none) fun _ => Calm.report_bind _ (Calm.pure _)

theorem calm_start (hook : StartHook) (bytes : Option Bytes) : Calm (start hook bytes) := by
  have hrefuse : ∀ message, Calm (refuse hook message) := fun message =>
    Calm.bind (calm_listen none) fun _ => Calm.report_bind _ (Calm.pure _)
  unfold start
  split
  next => exact hrefuse _
  next =>
    split
    next => exact hrefuse _
    next options _ =>
      refine Calm.bind (calm_listen options.log) fun _ => ?_
      refine Calm.bind (calm_install options) fun installed => ?_
      cases installed with
      | true => exact Calm.report_bind _ (Calm.pure _)
      | false => exact Calm.report_bind _ (Calm.report_bind _ (Calm.pure _))

/-- What is done once a class was visited. -/
def conclude (visit : Except ResolveError Handle × Resolver) : AgentM (Option Handle) := do
  modify fun agent => { agent with resolver := some visit.2 }
  let _ ← Native.clearPendingException
  match visit.1 with
  | .ok object => pure (some object)
  | .error error =>
    Host.report (failureEvent error)
    pure none

theorem resolve_eq_conclude_visit (environment : Bool) (owner : Handle) :
    resolve environment owner = if !environment || owner = 0 then pure none else
      currentResolver >>= fun resolver => liftM (resolver.resolveClass owner) >>= conclude := rfl

/-- What the resolver left pending is looked after at the end. -/
theorem calm_conclude (before : Bool) (visit : Except ResolveError Handle × Resolver) :
    Tended before (conclude visit) fun _ after => after = false := by
  refine (Tended.modify _).bind ?_
  rintro _ _ rfl
  refine (Tended.lift (Native.careful_clearPendingException _)).bind ?_
  rintro _ _ rfl
  split
  next => exact Calm.pure _
  next => exact Calm.report_bind _ (Calm.pure _)

theorem calm_resolve (environment : Bool) (owner : Handle) : Calm (resolve environment owner) := by
  rw [resolve_eq_conclude_visit]
  split
  next => exact Calm.pure _
  next =>
    refine Calm.bind calm_currentResolver fun resolver => ?_
    have hvisit := Tended.lift (resolver.careful_resolveClass owner)
    exact hvisit.bind fun visit after _ => calm_conclude after visit

/-- **A step of an agent leaves no exception pending.** -/
theorem calm_run {step : AgentStep} (h : step.Raisesless) : Calm (run step) := by
  cases step with
  | script step =>
    cases step with
    | change vm pending =>
      refine Calm.bind (fun agent => ?_) fun _ => Calm.pure _
      intro host hpending _
      refine ⟨?_, h.1, [], rfl, by simp⟩
      cases pending with
      | none => exact hpending
      | some raised =>
        cases raised with
        | false => rfl
        | true => exact absurd rfl h.2
    | _ => exact h.elim
  | load => exact Calm.bind calm_load fun _ => Calm.pure _
  | start hook options => exact Calm.bind (calm_start hook options) fun _ => Calm.pure _
  | unload => exact Calm.report_bind _ (Calm.pure _)
  | resolve environment owner =>
    exact Calm.bind (calm_resolve environment owner) fun _ => Calm.pure _
  | listen directive => exact Calm.bind (calm_listen directive) fun _ => Calm.pure _
  | install text =>
    dsimp only [run]
    split
    next => exact Calm.pure _
    next parsed _ => exact Calm.bind (calm_install parsed) fun _ => Calm.pure _
  | options => exact Calm.bind calm_currentOptions fun _ => Calm.pure _
  | resolver => exact Calm.bind calm_currentResolver fun _ => Calm.pure _

theorem calm_runAll {steps : List AgentStep} (h : ∀ step ∈ steps, step.Raisesless) :
    Calm (runAll steps) := by
  induction steps with
  | nil => exact Calm.pure _
  | cons step steps ih =>
    obtain ⟨hstep, hsteps⟩ := List.forall_mem_cons.mp h
    rw [runAll, List.mapM_cons]
    exact Calm.bind (calm_run hstep) fun _ => Calm.bind (ih hsteps) fun _ => Calm.pure _

/-! ### Resolving a class -/

/-- The resolver of the agent, which is made from its options if there is none. -/
def resolverInUse (agent : Agent) : Resolver :=
  agent.resolver.getD (.ofOptions (agent.options.getD {}))

/-- The answer for a class, and the machine when it is given. -/
def visited (agent : Agent) (owner : Handle) (host : Host) :
    (Except ResolveError Handle × Resolver) × Host :=
  (agent.resolverInUse.resolveClass owner).run host

theorem run_currentResolver (agent : Agent) (host : Host) : ∃ settled,
    (currentResolver.run agent).run host = ((agent.resolverInUse, settled), host) := by
  obtain ⟨options, resolver, filtered, filterLanguage, surroundingFilter, session⟩ := agent
  cases resolver with
  | none => exact ⟨_, rfl⟩
  | some resolver => exact ⟨_, rfl⟩

/-- What is given for a class is what its resolver answers, and it is given after the exception that
is pending then was looked after. -/
theorem run_resolve (agent : Agent) {owner : Handle} (h : owner ≠ 0) (host : Host) :
    (((resolve true owner).run agent).run host).1.1 = (agent.visited owner host).1.1.toOption ∧
      (((resolve true owner).run agent).run host).2.pending =
        (Native.clearPendingException.run (agent.visited owner host).2).2.pending := by
  obtain ⟨settled, hsettled⟩ := agent.run_currentResolver host
  rw [resolve_eq_conclude_visit, if_neg (by simp [h]), StateT.run_bind, StateT.run_bind, hsettled]
  change (((conclude (agent.visited owner host).1).run settled).run
      (agent.visited owner host).2).1.1 = _ ∧
    (((conclude (agent.visited owner host).1).run settled).run
      (agent.visited owner host).2).2.pending = _
  generalize agent.visited owner host = visit
  obtain ⟨⟨outcome, resolver⟩, left⟩ := visit
  cases outcome with
  | ok object => exact ⟨rfl, rfl⟩
  | error error =>
    have hreport := Host.run_report (failureEvent error) (Native.clearPendingException.run left).2
    exact ⟨rfl, congrArg (fun run => run.2.pending) hreport⟩

/-- **Resolving a class is clean of exceptions.**  On a machine that tells of exceptions in any way,
none is pending when a class was resolved, whatever was pending before; an object is given exactly
if the resolver answers with it, and it is not null.  And as long as only nulls raise exceptions,
every call of the agent is made while none is pending, or looks after one. -/
theorem resolve_is_exception_clean (agent : Agent) (host : Host) (hbyte : host.vm.trueByte ≠ 0) :
    (∀ owner, owner ≠ 0 →
      (((resolve true owner).run agent).run host).2.pending = false ∧
        (((resolve true owner).run agent).run host).1.1 =
          (agent.visited owner host).1.1.toOption ∧
        (((resolve true owner).run agent).run host).1.1 ≠ some 0) ∧
      (host.pending = false → host.journal = [] → ∀ steps : List AgentStep,
        (∀ step ∈ steps, step.Raisesless) →
        ∀ entry ∈ (((runAll steps).run agent).run host).2.journal, entry.pending = true →
          entry.call = .exceptionCheck ∨ entry.call = .exceptionClear) := by
  refine ⟨fun owner howner => ?_, fun hpending hjournal steps hsteps => ?_⟩
  · obtain ⟨hgiven, hleft⟩ := agent.run_resolve howner host
    have hvisit : Moves Call.Any (agent.resolverInUse.resolveClass owner) fun run =>
        ∀ object, run.1 = .ok object → object ≠ 0 :=
      Resolver.moves_resolveClass (fun _ _ => trivial) (fun _ => trivial) _ owner
    -- the machine answers as before the visit, so it still tells of exceptions
    have hvm := (hvisit.moved givesBack_any host).vm
    have hbyte' : (agent.visited owner host).2.vm.trueByte ≠ 0 := by
      rw [← hvm] at hbyte
      exact hbyte
    have hclear := Native.careful_clearPendingException _ _ rfl hbyte'
    refine ⟨hleft.trans hclear.1, hgiven, ?_⟩
    rw [hgiven]
    have hobject : ∀ object, (agent.visited owner host).1.1 = .ok object → object ≠ 0 :=
      hvisit.gives host
    cases houtcome : (agent.visited owner host).1.1 with
    | ok object => exact fun hnull => hobject object houtcome (Option.some.inj hnull)
    | error error => exact nofun
  · obtain ⟨-, -, made, hmade, hcareful⟩ := calm_runAll hsteps agent host hpending hbyte
    rw [hmade, hjournal, List.append_nil]
    exact hcareful

/-- A machine with one class that can be located, but no strings can be made.  It tells of pending
exceptions with a byte that is not one. -/
def withoutStrings : Vm where
  classes := [{
    id := 7, sourceFile := some (some (utf8 "A.kt"))
    methods := { rows := [{
      id := 9, modifiers := 0, name := some (utf8 "invoke")
      locals := some { rows := [] }, lines := some { rows := [⟨0, 3⟩] } }] } }]
  handles := { newString := 0 }
  trueByte := 2

/-- An agent that has settled nothing. -/
def fresh : Agent := { session := Session.ofOptions {} }

/-- The exception that comes with the string is looked after when the class was resolved. -/
theorem resolve_is_exception_clean_withoutStrings :
    (((resolve true 7).run fresh).run { vm := withoutStrings, pending := true }).2.pending = false ∧
      (∃ entry ∈ (((runAll [.resolve true 7]).run fresh).run { vm := withoutStrings }).2.journal,
        entry.pending = true) ∧
      ∀ entry ∈ (((runAll [.resolve true 7]).run fresh).run { vm := withoutStrings }).2.journal,
        entry.pending = true → entry.call = .exceptionCheck ∨ entry.call = .exceptionClear := by
  have hbyte : withoutStrings.trueByte ≠ 0 := by decide
  have hraised : ∃ entry ∈
      (((runAll [.resolve true 7]).run fresh).run { vm := withoutStrings }).2.journal,
      entry.pending = true := by decide +kernel
  have hclean := (resolve_is_exception_clean fresh { vm := withoutStrings, pending := true }
    hbyte).1 7 (by decide)
  have hcareful := (resolve_is_exception_clean fresh { vm := withoutStrings } hbyte).2 rfl rfl
    [.resolve true 7] (by simp [AgentStep.Raisesless])
  exact ⟨hclean.1, hraised, hcareful⟩

end Agent
end ClosureSpan
