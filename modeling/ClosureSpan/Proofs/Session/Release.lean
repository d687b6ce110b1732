import ClosureSpan.Proofs.Vm.Lending
import ClosureSpan.Session.Script

/-!
# A script gives back all memory

Whatever steps a program takes with a machine, whichever of its functions fail and whoever listens
to the events: between two steps no memory is out, and nothing was given back that was not out.

## Main definitions

* `Step.TakesBack` — a step after which memory can still be given back.
* `Lasting` — what is done with a session leaves nothing, whatever the session.

## Main results

* `Session.lasting_run` — a step leaves nothing.
* `Session.memory_given_back` — **after every step of a script all memory was given back once.**
-/

namespace ClosureSpan

variable {ε α β : Type}

/-! ### Native functions -/

namespace Native

theorem quiet_answered (handle : Handle) : Quiet (answered handle) := by
  refine Quiet.get_bind fun host _ => ?_
  split
  next => exact Quiet.bind (turns_setPending true) fun _ => Quiet.pure _
  next => exact Quiet.pure _

/-- A call, and an answer that the machine has for it. -/
theorem quiet_record_answered {call : Call} (hcall : ∀ label, call ≠ .deallocate label)
    (handle : Host → Handle) :
    Quiet (do
      Host.record call
      answered (handle (← get))) :=
  Quiet.bind (turns_record hcall) fun _ => Quiet.get_bind fun host _ => quiet_answered (handle host)

theorem quiet_javaVm : Quiet javaVm :=
  Quiet.get_bind fun _ _ => Quiet.bind (turns_record fun _ => nofun) fun _ => Quiet.pure _

theorem quiet_findClass (name : String) : Quiet (findClass name) := by
  unfold findClass
  split
  next => exact Quiet.pure _
  next => exact quiet_record_answered (by simp) fun host => host.vm.handles.foundClass

theorem quiet_methodId (owner : Handle) (name signature : String) :
    Quiet (methodId owner name signature) := by
  unfold methodId
  split
  next => exact quiet_record_answered (by simp) fun host => host.vm.handles.foundMethod
  next => exact Quiet.pure _

theorem quiet_newString (text : String) : Quiet (newString text) := by
  unfold newString
  split
  next => exact Quiet.pure _
  next => exact quiet_record_answered (by simp) fun host => host.vm.handles.newString

theorem quiet_newGlobalRef (object : Handle) : Quiet (newGlobalRef object) :=
  quiet_record_answered (by simp) fun host => host.vm.handles.globalRef

theorem quiet_newObject (owner constructor text : Handle) (start stop : Int) :
    Quiet (newObject owner constructor text start stop) :=
  quiet_record_answered (by simp) fun host => host.vm.handles.newObject

theorem quiet_deleteLocalRef (object : Handle) : Quiet (deleteLocalRef object) :=
  turns_record fun _ => nofun

theorem quiet_exceptionCheck : Quiet exceptionCheck :=
  Quiet.get_bind fun _ _ => Quiet.bind (turns_record fun _ => nofun) fun _ => Quiet.pure _

theorem quiet_exceptionClear : Quiet exceptionClear :=
  Quiet.bind (turns_record fun _ => nofun) fun _ => turns_setPending false

theorem quiet_clearPendingException : Quiet clearPendingException := by
  refine Quiet.bind quiet_exceptionCheck fun pending => ?_
  cases pending with
  | false => exact Quiet.pure _
  | true => exact Quiet.bind quiet_exceptionClear fun _ => Quiet.pure _

theorem quiet_dropLocalRef (object : Handle) : Quiet (dropLocalRef object) := by
  unfold dropLocalRef
  split
  next => exact Quiet.pure _
  next object _ => exact quiet_deleteLocalRef object

theorem quiet_withLocalRef {object : Handle} {body : HostM α} (h : Quiet body) :
    Quiet (withLocalRef object body) :=
  h.bind fun _ => (quiet_dropLocalRef object).bind fun _ => Quiet.pure _

end Native

/-! ### The result class -/

namespace Binding

theorem quiet_giveUp (event : Event) : Quiet (giveUp event) :=
  Native.quiet_clearPendingException.bind fun _ =>
    Quiet.bind (turns_report event) fun _ => Quiet.pure _

theorem quiet_ofClass (className : String) (found : Handle) : Quiet (ofClass className found) := by
  refine (Native.quiet_methodId _ _ _).bind fun constructor => ?_
  cases constructor with
  | none => exact quiet_giveUp _
  | some constructor =>
    refine (Native.quiet_newGlobalRef found).bind fun owner => ?_
    cases owner with
    | none => exact quiet_giveUp _
    | some owner => exact Quiet.bind (turns_report _) fun _ => Quiet.pure _

theorem quiet_lookUp (className : String) : Quiet (lookUp className) := by
  refine (Native.quiet_findClass className).bind fun found => ?_
  cases found with
  | none => exact quiet_giveUp _
  | some found => exact Native.quiet_withLocalRef (quiet_ofClass className found)

theorem quiet_construct (binding : Binding) (location : Location) :
    Quiet (construct binding location) := by
  refine (Native.quiet_newString _).bind fun text => ?_
  cases text with
  | none => exact Quiet.pure _
  | some text =>
    refine Native.quiet_withLocalRef ((Native.quiet_newObject _ _ _ _ _).bind fun object => ?_)
    cases object with
    | none => exact Native.quiet_clearPendingException.bind fun _ => Quiet.pure _
    | some object => exact Quiet.pure _

end Binding

theorem Latch.quiet_settle (latch : Latch α) {compute : HostM (Option α)} (h : Quiet compute) :
    Quiet (latch.settle compute) := by
  cases latch with
  | fresh => exact h.map _
  | unavailable => exact Quiet.pure _
  | ready value => exact Quiet.pure _

theorem Binder.quiet_bind (binder : Binder) : Quiet binder.bind :=
  (binder.binding.quiet_settle (Binding.quiet_lookUp _)).bind fun _ => Quiet.pure _

/-! ### Negotiation -/

theorem Tool.clean_openEnvironment : Clean Tool.openEnvironment := by
  unfold Tool.openEnvironment
  refine Tidy.get_bind fun host _ => ?_
  dsimp only
  refine Tidy.bind (Clean.ofQuiet (turns_record fun _ => nofun)) fun _ => ?_
  split
  next => exact Tidy.throw _
  next =>
    split
    next => exact Tidy.throw _
    next => exact Tidy.pure rfl

theorem Tool.clean_potentialCapabilities : Clean Tool.potentialCapabilities :=
  Tool.tidy_call (fun _ => nofun) fun _ _ => Tidy.pure rfl

theorem Tool.clean_addCapabilities (wanted : CapabilitySet) :
    Clean (Tool.addCapabilities wanted) :=
  Tool.tidy_call (fun _ => nofun) fun _ _ => Clean.ofQuiet <|
    turns_modify (fun _ h => h) (fun _ => rfl) (fun _ => rfl) fun _ => rfl

theorem Tool.clean_capabilities : Clean Tool.capabilities :=
  Tool.tidy_call (fun _ => nofun) fun _ _ => Tidy.get_bind fun _ _ => Tidy.pure rfl

namespace Negotiation

theorem quiet_warnFailed (function : String) (status : Status) :
    Quiet (warnFailed function status) := by
  refine Quiet.get_bind fun host _ => ?_
  split
  next =>
    exact Quiet.bind ((Tool.quiet_errorName status).bind fun _ => Quiet.pure _) turns_report
  next => exact Quiet.pure _

theorem quiet_attempt (function : String) {step : ToolM α} (h : Clean step) :
    Quiet (attempt function step).run := by
  refine Quiet.bind (clean_iff_quiet.mp h) fun outcome => ?_
  cases outcome with
  | ok value => exact Quiet.pure _
  | error status => exact (quiet_warnFailed function status).bind fun _ => Quiet.pure _

theorem quiet_openEnvironment : Quiet openEnvironment.run := by
  refine Quiet.bind (clean_iff_quiet.mp Tool.clean_openEnvironment) fun outcome => ?_
  cases outcome with
  | ok value => exact Quiet.pure _
  | error code => exact Quiet.bind (turns_report _) fun _ => Quiet.pure _

theorem quiet_accept (granted : CapabilitySet) : Quiet (accept granted).run := by
  unfold accept
  rw [OptionT.run_mk]
  split
  next => exact Quiet.bind (turns_report _) fun _ => Quiet.pure _
  next => exact Quiet.bind (turns_report _) fun _ => Quiet.pure _

/-- The negotiation goes on only after a step that did not fail. -/
theorem quiet_run_bind {x : OptionT HostM α} {f : α → OptionT HostM β} (h : Quiet x.run)
    (hf : ∀ a, Quiet (f a).run) : Quiet (x >>= f).run := by
  rw [OptionT.run_bind]
  refine h.bind fun outcome => ?_
  cases outcome with
  | none => exact Quiet.pure _
  | some a => exact hf a

end Negotiation

theorem quiet_negotiate (reachable : Bool) : Quiet (negotiate reachable) := by
  unfold negotiate
  split
  next =>
    have hpotential :=
      Negotiation.quiet_attempt "GetPotentialCapabilities" Tool.clean_potentialCapabilities
    have hadd := fun potential =>
      Negotiation.quiet_attempt "AddCapabilities" (Tool.clean_addCapabilities potential)
    have hgranted := Negotiation.quiet_attempt "GetCapabilities" Tool.clean_capabilities
    refine Negotiation.quiet_run_bind Negotiation.quiet_openEnvironment fun _ => ?_
    refine Negotiation.quiet_run_bind hpotential fun potential => ?_
    refine Negotiation.quiet_run_bind (hadd potential) fun _ => ?_
    exact Negotiation.quiet_run_bind hgranted Negotiation.quiet_accept
  next => exact Quiet.bind (turns_report _) fun _ => Quiet.pure _

/-! ### Resolvers -/

namespace Resolver

theorem clean_answer (resolver : Resolver) (binding : Binding) (owner : Handle) :
    Clean (resolver.answer binding owner) := by
  refine (Tool.introspector_lending.resolve resolver.entryMethod owner).bind fun location => ?_
  refine (Clean.ofQuiet (binding.quiet_construct location)).bind fun object => ?_
  cases object with
  | none => exact Tidy.throw _
  | some object => exact Tidy.pure rfl

theorem quiet_acquire (resolver : Resolver) (reachable : Bool) :
    Quiet (resolver.acquire reachable) :=
  (resolver.capability.quiet_settle (quiet_negotiate reachable)).bind fun _ => Quiet.pure _

theorem quiet_bind (resolver : Resolver) : Quiet resolver.bind :=
  resolver.binder.quiet_bind.bind fun _ => Quiet.pure _

theorem quiet_resolveClass (resolver : Resolver) (owner : Handle) :
    Quiet (resolver.resolveClass owner) := by
  refine Native.quiet_javaVm.bind fun reachable => ?_
  refine (resolver.quiet_acquire reachable).bind fun acquired => ?_
  split
  next => exact Quiet.pure _
  next =>
    refine acquired.quiet_bind.bind fun bound => ?_
    split
    next => exact Quiet.pure _
    next binding _ =>
      have hanswer : Quiet (bound.answer binding owner).run :=
        clean_iff_quiet.mp (bound.clean_answer binding owner)
      exact hanswer.bind fun _ => Quiet.pure _

end Resolver

/-! ### Steps -/

/-- What is done with a session leaves nothing, whatever the session. -/
def Lasting (x : SessionM α) : Prop := ∀ session, Quiet (x.run session)

namespace Lasting

theorem pure (a : α) : Lasting (pure a) := fun _ => Quiet.pure _

theorem bind {x : SessionM α} {f : α → SessionM β} (h : Lasting x) (hf : ∀ a, Lasting (f a)) :
    Lasting (x >>= f) :=
  fun session => by
    rw [StateT.run_bind]
    exact (h session).bind fun (a, session) => hf a session

theorem get : Lasting get := fun _ => Quiet.pure _

theorem set (session : Session) : Lasting (set session) := fun _ => Quiet.pure _

theorem lift {x : HostM α} (h : Quiet x) : Lasting (liftM x) :=
  fun session => h.bind fun a => Quiet.pure (a, session)

theorem settle {x : SessionM (Option α)} (latch : Latch α) (h : Lasting x) :
    Lasting (latch.settle x) := by
  cases latch with
  | fresh =>
    intro session
    rw [Latch.settle_fresh, StateT.run_map]
    exact (h session).map _
  | unavailable => exact pure _
  | ready value => exact pure _

/-- The answer to what was done with the machine. -/
theorem lift_pure {x : HostM α} (h : Quiet x) (f : α → β) :
    Lasting (liftM x >>= fun a => Pure.pure (f a)) := (lift h).bind fun _ => pure _

end Lasting

/-- A step after which memory can still be given back: the machine may change its answers, but it
goes on taking memory back. -/
def Step.TakesBack : Step → Prop
  | .change vm _ => vm.TakesBack
  | _ => True

namespace Session

theorem quiet_answerOf {failed : ε → Answer} {answered : α → Answer} {x : ExceptT ε HostM α}
    (h : Clean x) : Quiet (answerOf failed answered x) := by
  refine Quiet.bind (clean_iff_quiet.mp h) fun outcome => ?_
  cases outcome <;> exact Quiet.pure _

theorem quiet_ask {failure : Failure} {query : Query} {answered : α → Answer}
    {question : ToolM (Held HostM α)} (h : Lends question) :
    Quiet (ask failure query answered question) := by
  have hvalue : Clean (Held.use question Pure.pure) := h.use fun _ => Tidy.pure rfl
  cases failure with
  | status => exact quiet_answerOf hvalue
  | query => exact quiet_answerOf (Tidy.adapt hvalue _)

theorem quiet_answerQuery (failure : Failure) (query : Query) (subject : Handle) :
    Quiet (answerQuery failure query subject) := by
  cases query with
  | methods => exact quiet_ask (Tool.lends_methods subject)
  | modifiers =>
    refine quiet_ask (Tidy.map (Tool.clean_modifiers subject) fun value left hleft => ?_)
    rw [hleft]
    exact Held.owns_owned value
  | name => exact quiet_ask (Tool.lends_name subject)
  | locals => exact quiet_ask (Tool.lends_locals subject)
  | lines => exact quiet_ask (Tool.lends_lines subject)
  | sourceFile => exact quiet_ask (Tool.lends_sourceFile subject)

/-- A step leaves nothing. -/
theorem lasting_run {step : Step} (h : step.TakesBack) : Lasting (run step) := by
  cases step with
  | change vm pending =>
    refine Lasting.bind (Lasting.lift (x := modify _) ?_) fun _ => Lasting.pure _
    exact turns_modify (fun _ _ => h) (fun _ => rfl) (fun _ => rfl) fun _ => rfl
  | acquire reachable =>
    refine Lasting.get.bind fun session => ?_
    refine (Lasting.settle _ (Lasting.lift (quiet_negotiate reachable))).bind fun _ => ?_
    exact (Lasting.set _).bind fun _ => Lasting.pure _
  | environment => exact Lasting.get.bind fun _ => Lasting.pure _
  | negotiate reachable => exact Lasting.lift_pure (quiet_negotiate reachable) _
  | openEnvironment => exact Lasting.lift (quiet_answerOf Tool.clean_openEnvironment)
  | potentialCapabilities => exact Lasting.lift (quiet_answerOf Tool.clean_potentialCapabilities)
  | addCapabilities wanted =>
    exact Lasting.lift (quiet_answerOf (Tool.clean_addCapabilities wanted))
  | capabilities => exact Lasting.lift (quiet_answerOf Tool.clean_capabilities)
  | ask failure query subject => exact Lasting.lift (quiet_answerQuery failure query subject)
  | errorName status => exact Lasting.lift_pure (Tool.quiet_errorName status) _
  | select owner entry =>
    exact Lasting.lift (quiet_answerOf (Tool.introspector_lending.select entry owner))
  | resolve owner entry =>
    exact Lasting.lift (quiet_answerOf (Tool.introspector_lending.resolve entry owner))
  | bind =>
    refine Lasting.get.bind fun session => ?_
    refine (Lasting.lift session.binder.quiet_bind).bind fun binder => ?_
    exact (Lasting.set _).bind fun _ => Lasting.pure _
  | binder => exact Lasting.get.bind fun _ => Lasting.pure _
  | construct location =>
    refine Lasting.get.bind fun session => ?_
    refine (Lasting.lift session.binder.quiet_bind).bind fun binder => ?_
    refine (Lasting.set _).bind fun _ => ?_
    split
    next => exact Lasting.pure _
    next binding _ => exact Lasting.lift_pure (binding.quiet_construct location) _
  | resolveClass owner =>
    refine Lasting.get.bind fun session => ?_
    refine (Lasting.lift (session.resolver.quiet_resolveClass owner)).bind
      fun (outcome, resolver) => ?_
    refine (Lasting.set _).bind fun _ => ?_
    cases outcome <;> exact Lasting.pure _
  | resolver => exact Lasting.get.bind fun _ => Lasting.pure _
  | javaVm => exact Lasting.lift_pure Native.quiet_javaVm _
  | findClass name => exact Lasting.lift_pure (Native.quiet_findClass name) _
  | methodId owner name signature =>
    exact Lasting.lift_pure (Native.quiet_methodId owner name signature) _
  | newString text => exact Lasting.lift_pure (Native.quiet_newString text) _
  | newGlobalRef object => exact Lasting.lift_pure (Native.quiet_newGlobalRef object) _
  | deleteLocalRef object => exact Lasting.lift_pure (Native.quiet_deleteLocalRef object) _
  | exceptionCheck => exact Lasting.lift_pure Native.quiet_exceptionCheck _
  | exceptionClear => exact Lasting.lift_pure Native.quiet_exceptionClear _
  | clearPendingException => exact Lasting.lift_pure Native.quiet_clearPendingException _
  | localRef object handOn =>
    cases handOn with
    | false => exact Lasting.lift_pure (Native.quiet_dropLocalRef object) _
    | true => exact Lasting.pure _

theorem lasting_runAll {steps : List Step} (h : ∀ step ∈ steps, step.TakesBack) :
    Lasting (runAll steps) := by
  induction steps with
  | nil => exact Lasting.pure _
  | cons step steps ih =>
    rw [runAll, List.mapM_cons]
    refine (lasting_run (h step List.mem_cons_self)).bind fun answer => ?_
    refine Lasting.bind (ih fun other hother => h other (List.mem_cons_of_mem _ hother)) fun _ => ?_
    exact Lasting.pure _

/-! ### Scripts -/

/-- The machine after a script, on which nothing was done before. -/
def hostAfter (vm : Vm) (pending : Bool) (verbosity : Option Level) (options : Options)
    (steps : List Step) : Host :=
  (((runAll steps).run (ofOptions options)).run { vm, pending, verbosity }).2

/-- **After every step of a script all memory was given back once.**  No memory is out, what was
ever handed out was given back, piece by piece, and whenever memory was given back, it was out. -/
theorem memory_given_back {vm : Vm} (hvm : vm.TakesBack) (pending : Bool)
    (verbosity : Option Level) (options : Options) {steps : List Step}
    (hsteps : ∀ step ∈ steps, step.TakesBack) {done : List Step} (hdone : done <+: steps) :
    (hostAfter vm pending verbosity options done).outstanding = [] ∧
      (hostAfter vm pending verbosity options done).issued.Perm
        (hostAfter vm pending verbosity options done).released ∧
      ∀ entry ∈ (hostAfter vm pending verbosity options done).journal, entry.Sound := by
  have hlasting : Lasting (runAll done) :=
    lasting_runAll fun step hstep => hsteps step (hdone.subset hstep)
  have hstart : Host.Orderly { vm, pending, verbosity } := Host.orderly_start hvm pending verbosity
  -- at the start nothing is out, so what is out at the end is what the script left
  obtain ⟨left, rfl, horderly, hout⟩ :=
    hlasting (ofOptions options) _ [] hstart (List.Perm.refl [])
  have hnone : (hostAfter vm pending verbosity options done).outstanding = [] := hout.eq_nil
  have haccounted : (hostAfter vm pending verbosity options done).issued.Perm
      ((hostAfter vm pending verbosity options done).outstanding.map Allocation.label ++
        (hostAfter vm pending verbosity options done).released) := horderly.accounted
  rw [hnone] at haccounted
  exact ⟨hnone, haccounted, horderly.sound⟩

/-- A machine with one class of one method, which has a name and a variable, but no line table. -/
def withoutLines : Vm where
  classes := [{ id := 7, methods := { rows := [{
    id := 9, modifiers := 0, name := some [0x66]
    locals := some { rows := [{ name := some [0x78], start := 0, length := 4 }] } }] } }]

theorem withoutLines_takesBack : withoutLines.TakesBack where
  present := by decide
  succeeds := by decide
  honest := by
    intro entry hentry method hmethod table htable
    obtain rfl := List.mem_singleton.mp hentry
    obtain rfl := List.mem_singleton.mp hmethod
    cases htable
    exact .inr rfl

/-- A scan that fails at its last question gives back what it holds. -/
theorem memory_given_back_withoutLines :
    (hostAfter withoutLines false none {} [.resolve 7 "f"]).outstanding = [] ∧
      [Label.locals 9, .variableName 9 0, .name 9, .methods 7].Perm
        (hostAfter withoutLines false none {} [.resolve 7 "f"]).released ∧
      ∀ entry ∈ (hostAfter withoutLines false none {} [.resolve 7 "f"]).journal, entry.Sound := by
  have hissued : (hostAfter withoutLines false none {} [.resolve 7 "f"]).issued =
      [.locals 9, .variableName 9 0, .name 9, .methods 7] := by decide +kernel
  rw [← hissued]
  exact @memory_given_back _ withoutLines_takesBack false none {} [.resolve 7 "f"]
    (by simp [Step.TakesBack]) _ (List.prefix_refl _)

end Session
end ClosureSpan
