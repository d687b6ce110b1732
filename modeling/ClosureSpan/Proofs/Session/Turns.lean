import ClosureSpan.Proofs.Vm.Questions
import ClosureSpan.Session.Script

/-!
# The turns of a script

A script is gone through turn by turn.  A turn is a step with the session and the machine that it
finds, and the calls of a turn are entered in a journal that is empty when it begins.

Every step but one is put together from moves: the machine changes its answers only when it is said
to do so.

## Main definitions

* `Turn` — a step with what it finds; `Turn.answer`, `Turn.after`, `Turn.left`, `Turn.calls`.
* `Session.turns` — the turns of a script.
* `Manners May x` — what is done with a session is put together from moves.

## Main results

* `Session.run_recorded` — running a script gathers what its turns leave.
* `Session.manners_run` — every step but a change of the machine is put together from moves.
-/

namespace ClosureSpan

variable {ε α β : Type}

/-! ### Turns -/

/-- A step of a script. -/
structure Turn where
  /-- The session, as the turn finds it. -/
  session : Session
  /-- The machine, as the turn finds it. -/
  machine : Host
  /-- The step. -/
  step : Step

namespace Turn

variable (turn : Turn)

/-- The machine, where only the calls and the events of this turn will be entered. -/
def start : Host := { turn.machine with journal := [], events := [] }

/-- The turn: its answer, the session and the machine that it leaves. -/
def run : (Answer × Session) × Host := ((Session.run turn.step).run turn.session).run turn.start

/-- The answer of the step. -/
def answer : Answer := turn.run.1.1

/-- The session after the turn. -/
def after : Session := turn.run.1.2

/-- The machine after the turn. -/
def left : Host := turn.run.2

/-- The calls of the turn, in order. -/
def calls : List Call := turn.left.calls

/-- What the turn leaves behind. -/
def record : Record Answer := ⟨turn.answer, turn.calls, turn.left.told⟩

end Turn

namespace Session

/-- The turns of a script.  Each finds the session and the machine as the turn before has left
them. -/
def turns (session : Session) (machine : Host) : List Step → List Turn
  | [] => []
  | step :: steps =>
    let turn : Turn := ⟨session, machine, step⟩
    turn :: turns turn.after turn.left steps

theorem turns_cons (session : Session) (machine : Host) (step : Step) (steps : List Step) :
    turns session machine (step :: steps) =
      ⟨session, machine, step⟩ :: turns (Turn.mk session machine step).after
        (Turn.mk session machine step).left steps := rfl

/-- Running a script gathers what its turns leave. -/
theorem run_recorded (session : Session) (machine : Host) (steps : List Step) :
    (((steps.mapM fun step => Host.recorded (run step)).run session).run machine).1.1 =
      (turns session machine steps).map Turn.record := by
  induction steps generalizing session machine with
  | nil => rfl
  | cons step steps ih =>
    rw [List.mapM_cons, turns_cons, List.map_cons]
    let turn : Turn := ⟨session, machine, step⟩
    exact congrArg (List.cons turn.record) (ih turn.after turn.left)

end Session

/-! ### Native functions -/

/-- A call that belongs to a stage does not name a status. -/
theorem Call.namesStatus_of_stage {call : Call} {stage : Stage} (h : call.stage? = some stage) :
    call.namesStatus = false := by
  cases call with
  | getErrorName status => cases h
  | deallocate label => cases h
  | _ => rfl

variable {May : Call → Prop}

namespace Native

theorem acts_javaVm (h : May .getJavaVm) : Acts May javaVm :=
  Moves.look (fun _ => rfl) fun _ => Acts.bind (.record h) fun _ => Acts.pure _

theorem acts_exceptionCheck (h : May .exceptionCheck) : Acts May exceptionCheck :=
  Moves.look (fun _ => rfl) fun _ => Acts.bind (.record h) fun _ => Acts.pure _

theorem acts_exceptionClear (h : May .exceptionClear) : Acts May exceptionClear :=
  Acts.bind (.record h) fun _ => .setPending h false

theorem acts_clearPendingException (hcheck : May .exceptionCheck) (hclear : May .exceptionClear) :
    Acts May clearPendingException := by
  refine (acts_exceptionCheck hcheck).bind fun pending => ?_
  cases pending with
  | false => exact Acts.pure _
  | true => exact (acts_exceptionClear hclear).bind fun _ => Acts.pure _

end Native

theorem Binding.acts_giveUp (hcheck : May .exceptionCheck) (hclear : May .exceptionClear)
    (event : Event) : Acts May (giveUp event) :=
  (Native.acts_clearPendingException hcheck hclear).bind fun _ =>
    Acts.bind (.report event) fun _ => Acts.pure _

section native

variable (hplain : ∀ call, call.namesStatus = false → May call)

include hplain

namespace Native

/-- An answer is a handle that is not null, if it is one. -/
theorem moves_answered (handle : Handle) :
    Moves May (answered handle) fun result => result ≠ some 0 := by
  have hresult : handle.nonNull? ≠ some 0 := by
    unfold Handle.nonNull?
    split
    next => nofun
    next hnull => exact fun heq => hnull (Option.some.inj heq)
  refine Moves.look (fun _ => rfl) fun host => ?_
  split
  next => exact Acts.bind (.setPending (hplain _ rfl) true) fun _ => .pure hresult
  next => exact .pure hresult

/-- A call, and an answer that the machine has for it. -/
theorem moves_record_answered {call : Call} (hcall : call.namesStatus = false)
    (handle : Vm → Handle) :
    Moves May (do
      Host.record call
      answered (handle (← get).vm)) fun result => result ≠ some 0 :=
  Acts.bind (.record (hplain call hcall)) fun _ =>
    Moves.look (fun _ => rfl) fun host => moves_answered hplain (handle host.vm)

theorem acts_findClass (name : String) : Acts May (findClass name) := by
  unfold findClass
  split
  next => exact Acts.pure _
  next => exact (moves_record_answered hplain rfl fun vm => vm.handles.foundClass).acts

theorem acts_methodId (owner : Handle) (name signature : String) :
    Acts May (methodId owner name signature) := by
  unfold methodId
  split
  next => exact (moves_record_answered hplain rfl fun vm => vm.handles.foundMethod).acts
  next => exact Acts.pure _

theorem acts_newString (text : String) : Acts May (newString text) := by
  unfold newString
  split
  next => exact Acts.pure _
  next => exact (moves_record_answered hplain rfl fun vm => vm.handles.newString).acts

theorem acts_newGlobalRef (object : Handle) : Acts May (newGlobalRef object) :=
  (moves_record_answered hplain rfl fun vm => vm.handles.globalRef).acts

theorem moves_newObject (owner constructor text : Handle) (start stop : Int) :
    Moves May (newObject owner constructor text start stop) fun result => result ≠ some 0 :=
  moves_record_answered hplain rfl fun vm => vm.handles.newObject

theorem acts_deleteLocalRef (object : Handle) : Acts May (deleteLocalRef object) :=
  .record (hplain _ rfl)

theorem acts_dropLocalRef (object : Handle) : Acts May (dropLocalRef object) := by
  unfold dropLocalRef
  split
  next => exact Acts.pure _
  next object _ => exact acts_deleteLocalRef hplain object

theorem moves_withLocalRef {object : Handle} {body : HostM α} {P : α → Prop}
    (h : Moves May body P) : Moves May (withLocalRef object body) P :=
  h.bind fun _ ha => (acts_dropLocalRef hplain object).bind fun _ => .pure ha

end Native

/-! ### The result class -/

namespace Binding

theorem acts_ofClass (className : String) (found : Handle) :
    Acts May (ofClass className found) := by
  refine (Native.acts_methodId hplain _ _ _).bind fun constructor => ?_
  cases constructor with
  | none => exact acts_giveUp (hplain _ rfl) (hplain _ rfl) _
  | some constructor =>
    refine (Native.acts_newGlobalRef hplain found).bind fun owner => ?_
    cases owner with
    | none => exact acts_giveUp (hplain _ rfl) (hplain _ rfl) _
    | some owner => exact Acts.bind (.report _) fun _ => Acts.pure _

theorem acts_lookUp (className : String) : Acts May (lookUp className) := by
  refine (Native.acts_findClass hplain className).bind fun found => ?_
  cases found with
  | none => exact acts_giveUp (hplain _ rfl) (hplain _ rfl) _
  | some found => exact Native.moves_withLocalRef hplain (acts_ofClass hplain className found)

theorem moves_construct (binding : Binding) (location : Location) :
    Moves May (construct binding location) fun object => object ≠ some 0 := by
  refine (Native.acts_newString hplain _).bind fun text => ?_
  cases text with
  | none => exact .pure nofun
  | some text =>
    refine Native.moves_withLocalRef hplain ?_
    refine (Native.moves_newObject hplain _ _ _ _ _).bind fun object hobject => ?_
    cases object with
    | none =>
      exact (Native.acts_clearPendingException (hplain _ rfl) (hplain _ rfl)).bind fun _ =>
        .pure hobject
    | some object => exact .pure hobject

end Binding

omit hplain in
theorem Latch.acts_settle (latch : Latch α) {compute : HostM (Option α)} (h : Acts May compute) :
    Acts May (latch.settle compute) := by
  cases latch with
  | fresh =>
    rw [settle_fresh, ← bind_pure_comp]
    exact h.bind fun _ => Acts.pure _
  | unavailable => exact Acts.pure _
  | ready value => exact Acts.pure _

theorem Binder.acts_bind (binder : Binder) : Acts May binder.bind :=
  (binder.binding.acts_settle (Binding.acts_lookUp hplain _)).bind fun _ => Acts.pure _

/-! ### Resolvers -/

namespace Resolver

/-- An answer is an object that is not null, if it is one. -/
theorem tries_answer (resolver : Resolver) (binding : Binding) (owner : Handle) :
    Tries May (resolver.answer binding owner) fun object => object ≠ 0 := by
  have hresolve := (Tool.introspector_acting fun _ _ => hplain _ rfl).resolve
    resolver.entryMethod owner
  refine hresolve.bind fun location _ => ?_
  refine Tries.lift_bind (Binding.moves_construct hplain binding location) fun object hobject => ?_
  cases object with
  | none => exact Tries.throw _
  | some object => exact Tries.pure fun hnull => hobject (congrArg some hnull)

/-- What a resolver does once it has tried to obtain an environment. -/
def afterAcquire (resolver : Resolver) (owner : Handle) :
    HostM (Except ResolveError Handle × Resolver) := do
  match resolver.capability.get? with
  | none => pure (.error .capabilityUnavailable, resolver)
  | some _ =>
    let resolver ← resolver.bind
    match resolver.binder.binding.get? with
    | none => pure (.error .bindingUnavailable, resolver)
    | some binding => pure (← (resolver.answer binding owner).run, resolver)

omit hplain in
theorem resolveClass_eq (resolver : Resolver) (owner : Handle) :
    resolver.resolveClass owner = Native.javaVm >>= fun reachable =>
      resolver.acquire reachable >>= fun acquired => acquired.afterAcquire owner := rfl

theorem moves_afterAcquire (resolver : Resolver) (owner : Handle) :
    Moves May (resolver.afterAcquire owner) fun run =>
      ∀ object, run.1 = .ok object → object ≠ 0 := by
  unfold afterAcquire
  split
  next => exact .pure nofun
  next =>
    have hbind : Acts May resolver.bind :=
      (resolver.binder.acts_bind hplain).bind fun _ => Acts.pure _
    refine hbind.bind fun bound => ?_
    split
    next => exact .pure nofun
    next binding _ =>
      exact Moves.bind (bound.tries_answer hplain binding owner) fun _ houtcome => .pure houtcome

/-- A resolver asks for the names of statuses in its negotiation only. -/
theorem moves_resolveClass (hname : ∀ status, May (.getErrorName status)) (resolver : Resolver)
    (owner : Handle) :
    Moves May (resolver.resolveClass owner) fun run =>
      ∀ object, run.1 = .ok object → object ≠ 0 := by
  have hnegotiation : ∀ call, call.stage? = some .negotiation → May call :=
    fun call hcall => hplain call (Call.namesStatus_of_stage hcall)
  rw [resolveClass_eq]
  refine (Native.acts_javaVm (hplain _ rfl)).bind fun reachable => ?_
  have hacquire : Acts May (resolver.acquire reachable) :=
    (resolver.capability.acts_settle (acts_negotiate hnegotiation hname reachable)).bind
      fun _ => Acts.pure _
  exact hacquire.bind fun acquired => acquired.moves_afterAcquire hplain owner

end Resolver

end native

/-! ### Steps -/

/-- What is done with a session is put together from moves, whatever the session. -/
def Manners (May : Call → Prop) (x : SessionM α) : Prop := ∀ session, Acts May (x.run session)

namespace Manners

theorem pure (a : α) : Manners May (pure a) := fun _ => Acts.pure _

theorem bind {x : SessionM α} {f : α → SessionM β} (h : Manners May x)
    (hf : ∀ a, Manners May (f a)) : Manners May (x >>= f) :=
  fun session => by
    rw [StateT.run_bind]
    exact (h session).bind fun (a, session) => hf a session

theorem get : Manners May get := fun _ => Acts.pure _

theorem set (session : Session) : Manners May (set session) := fun _ => Acts.pure _

theorem lift {x : HostM α} (h : Acts May x) : Manners May (liftM x) :=
  fun session => h.bind fun a => Acts.pure (a, session)

theorem settle {x : HostM (Option α)} (latch : Latch α) (h : Acts May x) :
    Manners May (latch.settle (liftM x : SessionM (Option α))) := by
  cases latch with
  | fresh =>
    rw [Latch.settle_fresh, ← bind_pure_comp]
    exact (lift h).bind fun _ => pure _
  | unavailable => exact pure _
  | ready value => exact pure _

/-- The answer to what was done with the machine. -/
theorem lift_pure {x : HostM α} (h : Acts May x) (f : α → β) :
    Manners May (liftM x >>= fun a => Pure.pure (f a)) := (lift h).bind fun _ => pure _

end Manners

/-- The step changes the answers of the machine. -/
def Step.Changes : Step → Prop
  | .change _ _ => True
  | _ => False

/-- The step may ask for the name of a status. -/
def Step.MayName : Step → Prop
  | .acquire _ | .negotiate _ | .errorName _ | .resolveClass _ => True
  | _ => False

namespace Session

theorem acts_answerOf {failed : ε → Answer} {answered : α → Answer} {x : ExceptT ε HostM α}
    {Value : α → Prop} (h : Tries May x Value) : Acts May (answerOf failed answered x) := by
  refine h.acts.bind fun outcome => ?_
  cases outcome <;> exact Acts.pure _

theorem acts_ask {failure : Failure} {query : Query} {answered : α → Answer}
    {question : ToolM (Held HostM α)} (h : Lets May question) :
    Acts May (ask failure query answered question) := by
  have hvalue : Tries May (Held.use question Pure.pure) fun _ => True :=
    h.use fun _ => Tries.pure trivial
  cases failure with
  | status => exact acts_answerOf hvalue
  | query => exact acts_answerOf (hvalue.adapt _)

theorem acts_answerQuery (hmay : ∀ query subject, May (.query query subject)) (failure : Failure)
    (query : Query) (subject : Handle) : Acts May (answerQuery failure query subject) := by
  cases query with
  | methods => exact acts_ask (Tool.lets_methods (hmay _ subject))
  | modifiers => exact acts_ask ((Tool.tries_modifiers (hmay _ subject)).map fun _ _ => Acts.pure _)
  | name => exact acts_ask (Tool.lets_name (hmay _ subject))
  | locals => exact acts_ask (Tool.lets_locals (hmay _ subject))
  | lines => exact acts_ask (Tool.lets_lines (hmay _ subject))
  | sourceFile => exact acts_ask (Tool.lets_sourceFile (hmay _ subject))

/-- Every step but a change of the machine is put together from moves.  Names of statuses are asked
for in a negotiation, or by a step for that. -/
theorem manners_run {step : Step} (hchange : ¬ step.Changes)
    (hplain : ∀ call, call.namesStatus = false → May call)
    (hname : step.MayName → ∀ status, May (.getErrorName status)) : Manners May (run step) := by
  have hquery : ∀ query subject, May (.query query subject) := fun _ _ => hplain _ rfl
  have hnegotiation : ∀ call, call.stage? = some .negotiation → May call :=
    fun call hcall => hplain call (Call.namesStatus_of_stage hcall)
  cases step with
  | change vm pending => exact absurd trivial hchange
  | acquire reachable =>
    have hnegotiate := acts_negotiate hnegotiation (hname trivial) reachable
    refine Manners.get.bind fun session => ?_
    exact (Manners.settle _ hnegotiate).bind fun _ => (Manners.set _).bind fun _ => Manners.pure _
  | environment => exact Manners.get.bind fun _ => Manners.pure _
  | negotiate reachable =>
    exact Manners.lift_pure (acts_negotiate hnegotiation (hname trivial) reachable) _
  | openEnvironment =>
    exact Manners.lift (acts_answerOf (Tool.tries_openEnvironment hnegotiation))
  | potentialCapabilities =>
    exact Manners.lift (acts_answerOf (Tool.tries_potentialCapabilities hnegotiation))
  | addCapabilities wanted =>
    exact Manners.lift (acts_answerOf (Tool.tries_addCapabilities hnegotiation wanted))
  | capabilities => exact Manners.lift (acts_answerOf (Tool.tries_capabilities hnegotiation))
  | ask failure query subject =>
    exact Manners.lift (acts_answerQuery hquery failure query subject)
  | errorName status => exact Manners.lift_pure (.errorName (hname trivial status)) _
  | select owner entry =>
    exact Manners.lift (acts_answerOf ((Tool.introspector_acting hquery).select entry owner))
  | resolve owner entry =>
    exact Manners.lift (acts_answerOf ((Tool.introspector_acting hquery).resolve entry owner))
  | bind =>
    refine Manners.get.bind fun session => ?_
    refine (Manners.lift (session.binder.acts_bind hplain)).bind fun binder => ?_
    exact (Manners.set _).bind fun _ => Manners.pure _
  | binder => exact Manners.get.bind fun _ => Manners.pure _
  | construct location =>
    refine Manners.get.bind fun session => ?_
    refine (Manners.lift (session.binder.acts_bind hplain)).bind fun binder => ?_
    refine (Manners.set _).bind fun _ => ?_
    split
    next => exact Manners.pure _
    next binding _ => exact Manners.lift_pure (binding.moves_construct hplain location).acts _
  | resolveClass owner =>
    refine Manners.get.bind fun session => ?_
    have hresolve := (session.resolver.moves_resolveClass hplain (hname trivial) owner).acts
    refine (Manners.lift hresolve).bind fun (outcome, resolver) => ?_
    refine (Manners.set _).bind fun _ => ?_
    cases outcome <;> exact Manners.pure _
  | resolver => exact Manners.get.bind fun _ => Manners.pure _
  | javaVm => exact Manners.lift_pure (Native.acts_javaVm (hplain _ rfl)) _
  | findClass name => exact Manners.lift_pure (Native.acts_findClass hplain name) _
  | methodId owner name signature =>
    exact Manners.lift_pure (Native.acts_methodId hplain owner name signature) _
  | newString text => exact Manners.lift_pure (Native.acts_newString hplain text) _
  | newGlobalRef object => exact Manners.lift_pure (Native.acts_newGlobalRef hplain object) _
  | deleteLocalRef object => exact Manners.lift_pure (Native.acts_deleteLocalRef hplain object) _
  | exceptionCheck => exact Manners.lift_pure (Native.acts_exceptionCheck (hplain _ rfl)) _
  | exceptionClear => exact Manners.lift_pure (Native.acts_exceptionClear (hplain _ rfl)) _
  | clearPendingException =>
    exact Manners.lift_pure (Native.acts_clearPendingException (hplain _ rfl) (hplain _ rfl)) _
  | localRef object handOn =>
    cases handOn with
    | false => exact Manners.lift_pure (Native.acts_dropLocalRef hplain object) _
    | true => exact Manners.pure _

end Session

/-- Unless the machine changes, a turn leaves a machine that answers as before. -/
theorem Turn.moved (turn : Turn) (h : ¬ turn.step.Changes) :
    turn.start.Moved Call.Any turn.left := by
  have hmoves : Manners Call.Any (Session.run turn.step) :=
    Session.manners_run h (fun _ _ => trivial) fun _ _ => trivial
  exact (hmoves turn.session).moved givesBack_any turn.start

end ClosureSpan
