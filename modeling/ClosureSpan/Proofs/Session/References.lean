import ClosureSpan.Proofs.Session.Ledger
import ClosureSpan.Proofs.Session.Turns
import ClosureSpan.Proofs.Text.Canonical

/-!
# Local references

Look-ups and constructions do with references what `LookedUp` and `Constructed` have, and nothing
else of a resolver or of a script has to do with them.  So the ledger of every turn that binds,
constructs or resolves is empty at its end.  Across turns, what is obtained for good is told from
local references by its handle.

## Main definitions

* `Refers vm x Made` — what a computation does with references on machines that answer like `vm`.
* `Turn.Balanced` — what is obtained in a turn is dropped in it, and only used in between.

## Main results

* `Refers.lookUp`, `Refers.construct` — look-ups and constructions do nothing else.
* `Session.local_references_are_balanced` — **every turn gives its local references back.**
-/

namespace ClosureSpan

variable {ε α β : Type} {vm : Vm}

/-! ### Computations that refer -/

/-- On machines that answer like `vm`, the calls of the computation that refer are as `Made` has
it. -/
def Refers (vm : Vm) (x : HostM α) (Made : α → List Call → Prop) : Prop :=
  ∀ host, host.vm = vm → (x.run host).2.vm = vm ∧ ∃ made,
    (x.run host).2.calls = host.calls ++ made ∧ Made (x.run host).1 (made.filter Call.refers)

/-- The call does not refer. -/
abbrev Call.Spares (call : Call) : Prop := call.refers = false

theorem givesBack_spares : GivesBack Call.Spares := ⟨fun _ _ => rfl, fun _ _ => rfl⟩

namespace Refers

variable {x : HostM α} {Made : α → List Call → Prop} {After : β → List Call → Prop}

theorem pure {a : α} (h : Made a []) : Refers vm (pure a) Made :=
  fun _ hvm => ⟨hvm, [], (List.append_nil _).symm, h⟩

theorem mono {Made' : α → List Call → Prop} (h : Refers vm x Made)
    (hmono : ∀ a made, Made a made → Made' a made) : Refers vm x Made' := by
  intro host hvm
  obtain ⟨hvm', made, hcalls, hmade⟩ := h host hvm
  exact ⟨hvm', made, hcalls, hmono _ _ hmade⟩

theorem bind {f : α → HostM β} (h : Refers vm x Made)
    (hf : ∀ a made, Made a made → Refers vm (f a) fun b more => After b (made ++ more)) :
    Refers vm (x >>= f) After := by
  intro host hvm
  obtain ⟨hmid, made, hcalls, hmade⟩ := h host hvm
  obtain ⟨hlast, more, hcalls', hafter⟩ := hf _ _ hmade _ hmid
  rw [Host.run_bind]
  refine ⟨hlast, made ++ more, ?_, ?_⟩
  · rw [hcalls', hcalls, List.append_assoc]
  · rw [List.filter_append]
    exact hafter

/-- A value is made of what was obtained. -/
theorem bind_pure {f : α → β} (h : Refers vm x Made)
    (hf : ∀ a made, Made a made → After (f a) made) :
    Refers vm (x >>= fun a => Pure.pure (f a)) After := by
  refine h.bind fun a made hmade => pure ?_
  rw [List.append_nil]
  exact hf a made hmade

/-- What makes no call that refers. -/
theorem of_acts (h : Acts Call.Spares x) : Refers vm x fun _ made => made = [] := by
  intro host hvm
  have hmoved := h.moved givesBack_spares host
  obtain ⟨made, hcalls, hspares⟩ := hmoved.calls
  refine ⟨hmoved.vm.trans hvm, made, hcalls, List.filter_eq_nil_iff.mpr fun call hcall => ?_⟩
  rw [hspares call hcall]
  exact Bool.false_ne_true

/-- First something is done that makes no call that refers. -/
theorem acts_bind {f : α → HostM β} (h : Acts Call.Spares x) (hf : ∀ a, Refers vm (f a) After) :
    Refers vm (x >>= f) After := by
  refine (of_acts h).bind ?_
  rintro a _ rfl
  exact hf a

theorem get_bind {f : Host → HostM β} (hf : ∀ host, host.vm = vm → Refers vm (f host) After) :
    Refers vm (get >>= f) After := fun host hvm => hf host hvm host hvm

/-- First something is done that does not fail. -/
theorem lift_bind {f : α → ExceptT ε HostM β} {After : Except ε β → List Call → Prop}
    (h : Refers vm x Made)
    (hf : ∀ a made, Made a made → Refers vm (f a).run fun b more => After b (made ++ more)) :
    Refers vm ((liftM x : ExceptT ε HostM α) >>= f).run After :=
  bind (f := fun a => (f a).run) h hf

theorem record {call : Call} (h : call.refers = true) :
    Refers vm (Host.record call) fun _ made => made = [call] := by
  intro host hvm
  refine ⟨hvm, [call], Host.calls_entered host call, ?_⟩
  rw [List.filter_singleton, h]
  rfl

/-! ### The native interface -/

theorem answered (handle : Handle) : Refers vm (Native.answered handle) fun result made =>
    result = handle.nonNull? ∧ made = [] := by
  have hspares : Call.Spares .exceptionClear := rfl
  refine get_bind fun host _ => ?_
  have hresult : Refers vm (Pure.pure handle.nonNull?) fun result made =>
      result = handle.nonNull? ∧ made = [] := pure ⟨rfl, rfl⟩
  split
  next => exact acts_bind (.setPending hspares true) fun _ => hresult
  next => exact hresult

/-- A call that refers, and an answer that the machine has for it. -/
theorem record_answered {call : Call} (h : call.refers = true) (handle : Vm → Handle) :
    Refers vm (do
      Host.record call
      Native.answered (handle (← get).vm)) fun result made =>
        result = (handle vm).nonNull? ∧ made = [call] := by
  refine (record h).bind ?_
  rintro _ _ rfl
  refine get_bind fun host hvm => ?_
  rw [hvm]
  refine (answered (handle vm)).mono ?_
  rintro _ _ ⟨rfl, rfl⟩
  exact ⟨rfl, rfl⟩

/-- A local reference is dropped after its last use. -/
theorem withLocalRef {object : Handle} (hobject : object ≠ 0) (h : Refers vm x fun a made =>
    Made a (made ++ [.deleteLocalRef object])) : Refers vm (Native.withLocalRef object x) Made := by
  refine h.bind fun a made hmade => ?_
  have hdrop : Native.dropLocalRef object = Native.deleteLocalRef object := by
    rw [Native.dropLocalRef, Handle.nonNull?_of_ne hobject]
  rw [hdrop]
  refine (record rfl).bind ?_
  rintro _ _ rfl
  exact pure hmade

/-! ### The result class -/

theorem findClass {name : String} (h : 0 ∉ utf8 name) :
    Refers vm (Native.findClass name) fun found made =>
      found = vm.handles.foundClass.nonNull? ∧ made = [.findClass (utf8 name)] := by
  unfold Native.findClass
  rw [Native.terminated?_of_notMem h]
  exact record_answered rfl fun vm => vm.handles.foundClass

theorem constructor (owner : Handle) :
    Refers vm (Native.methodId owner "<init>" resultConstructorSignature) fun found made =>
      found = vm.handles.foundMethod.nonNull? ∧
        made = [.getMethodId owner (utf8 "<init>") (utf8 resultConstructorSignature)] := by
  have hname : 0 ∉ utf8 "<init>" := by decide +kernel
  have hsignature : 0 ∉ utf8 resultConstructorSignature := by decide +kernel
  unfold Native.methodId
  rw [Native.terminated?_of_notMem hname, Native.terminated?_of_notMem hsignature]
  exact record_answered rfl fun vm => vm.handles.foundMethod

/-- Who gives up does not refer any more. -/
theorem giveUp {event : Event} {After : Option Binding → List Call → Prop} (h : After none []) :
    Refers vm (Binding.giveUp event) After := by
  have hdrop : Acts Call.Spares Native.clearPendingException :=
    Native.acts_clearPendingException rfl rfl
  exact acts_bind hdrop fun _ => acts_bind (.report event) fun _ => pure h

/-- **A look-up does nothing else with references.** -/
theorem lookUp (className : String) : Refers vm (Binding.lookUp className) (LookedUp vm) := by
  unfold Binding.lookUp
  -- a name with a NUL cannot be passed, and the machine is not asked
  by_cases hname : 0 ∈ utf8 className
  · have hfind : Native.findClass className = Pure.pure none := by
      rw [Native.findClass, Native.terminated?_of_mem hname]
    rw [hfind, pure_bind]
    exact giveUp .unasked
  refine (findClass hname).bind ?_
  rintro _ _ ⟨rfl, rfl⟩
  by_cases hclass : vm.handles.foundClass = 0
  · rw [hclass, Handle.nonNull?_zero]
    exact giveUp (.notFound _ hclass)
  rw [Handle.nonNull?_of_ne hclass]
  -- from here on the local reference is dropped at the end, whichever case it is
  refine withLocalRef hclass ((constructor _).bind ?_)
  rintro _ _ ⟨rfl, rfl⟩
  by_cases hmethod : vm.handles.foundMethod = 0
  · rw [hmethod, Handle.nonNull?_zero]
    exact giveUp (.unsuited _ _ _ hclass hmethod)
  rw [Handle.nonNull?_of_ne hmethod]
  have hkeep : Refers vm (Native.newGlobalRef vm.handles.foundClass) fun owner made =>
      owner = vm.handles.globalRef.nonNull? ∧ made = [.newGlobalRef vm.handles.foundClass] :=
    record_answered rfl fun vm => vm.handles.globalRef
  refine hkeep.bind ?_
  rintro _ _ ⟨rfl, rfl⟩
  by_cases hglobal : vm.handles.globalRef = 0
  · rw [hglobal, Handle.nonNull?_zero]
    exact giveUp (.unkept _ _ _ hclass hmethod hglobal)
  rw [Handle.nonNull?_of_ne hglobal]
  exact acts_bind (.report _) fun _ => pure (.bound _ _ _ hclass hmethod hglobal)

/-- **A construction does nothing else with references.** -/
theorem construct (binding : Binding) (location : Location) :
    Refers vm (binding.construct location) fun _ made => Constructed vm (some binding) made := by
  have hstring : Refers vm (Native.newString location.sourceFile) fun text made =>
      text = vm.handles.newString.nonNull? ∧
        made = [.newString (ModifiedUtf8.encode location.sourceFile)] := by
    unfold Native.newString
    rw [Native.terminated?_of_notMem (ModifiedUtf8.zero_notMem_encode _)]
    exact record_answered rfl fun vm => vm.handles.newString
  refine hstring.bind ?_
  rintro _ _ ⟨rfl, rfl⟩
  by_cases htext : vm.handles.newString = 0
  · rw [htext, Handle.nonNull?_zero]
    exact pure (.unnamed _ _ htext)
  rw [Handle.nonNull?_of_ne htext]
  have hobject : Refers vm (Native.newObject binding.owner binding.constructor
      vm.handles.newString location.startLine location.endLine) fun object made =>
        object = vm.handles.newObject.nonNull? ∧
          made = [.newObject binding.owner binding.constructor vm.handles.newString
            location.startLine location.endLine] :=
    record_answered rfl fun vm => vm.handles.newObject
  refine withLocalRef htext (hobject.bind ?_)
  rintro object _ ⟨-, rfl⟩
  have hclear : Acts Call.Spares Native.clearPendingException :=
    Native.acts_clearPendingException rfl rfl
  split
  next => exact acts_bind hclear fun _ => pure (.asked _ _ _ _ htext)
  next => exact pure (.asked _ _ _ _ htext)

theorem settle (className : String) (latch : Latch Binding) :
    Refers vm (latch.settle (Binding.lookUp className)) (Settled vm latch) := by
  cases latch with
  | fresh =>
    rw [Latch.settle_fresh, ← bind_pure_comp]
    exact (lookUp className).bind_pure fun _ _ => .first
  | unavailable => exact pure (.kept _)
  | ready binding => exact pure (.kept _)

theorem binder_bind (binder : Binder) :
    Refers vm binder.bind fun after made => Settled vm binder.binding after.binding made :=
  (settle binder.className binder.binding).bind_pure fun _ _ hmade => hmade

/-! ### Resolvers -/

/-- An answer only constructs. -/
theorem answer (resolver : Resolver) (binding : Binding) (owner : Handle) :
    Refers vm (resolver.answer binding owner).run fun _ made =>
      Constructed vm (some binding) made := by
  have hacting : Tool.introspector.Acting Call.Spares :=
    Tool.introspector_acting fun _ _ => rfl
  have hresolve := hacting.resolve resolver.entryMethod owner
  unfold Resolver.answer
  rw [ExceptT.run_bind]
  refine acts_bind hresolve.acts fun outcome => ?_
  cases outcome with
  | error e => exact pure (.unasked _)
  | ok location =>
    refine lift_bind (construct binding location) fun object made hmade => ?_
    cases object <;> exact pure (by rwa [List.append_nil])

/-- A visit of a resolver settles a binding at most, and constructs a result at most. -/
theorem resolveClass (resolver : Resolver) (owner : Handle) :
    Refers vm (resolver.resolveClass owner) fun run made =>
      Served vm resolver.binder.binding run.2.binder.binding made := by
  have hnegotiation : ∀ call : Call, call.stage? = some .negotiation → call.Spares := by
    intro call hcall
    cases call with
    | findClass | getMethodId | newString | newGlobalRef | deleteLocalRef | newObject => cases hcall
    | _ => rfl
  have hnegotiate : ∀ reachable, Acts Call.Spares (negotiate reachable) :=
    acts_negotiate hnegotiation fun _ => rfl
  have hacquire : ∀ reachable, Refers vm (resolver.acquire reachable) fun acquired made =>
      acquired.binder = resolver.binder ∧ made = [] := fun reachable =>
    acts_bind (resolver.capability.acts_settle (hnegotiate reachable)) fun _ => pure ⟨rfl, rfl⟩
  have hjavaVm : Acts Call.Spares Native.javaVm := Native.acts_javaVm rfl
  rw [Resolver.resolveClass_eq]
  refine acts_bind hjavaVm fun reachable => (hacquire reachable).bind ?_
  rintro acquired _ ⟨hbinder, rfl⟩
  rw [← hbinder]
  unfold Resolver.afterAcquire
  split
  next => exact pure (Settled.kept _).served
  next =>
    have hbind : Refers vm acquired.bind fun bound made =>
        Settled vm acquired.binder.binding bound.binder.binding made :=
      (binder_bind acquired.binder).bind_pure fun _ _ hmade => hmade
    refine hbind.bind fun bound looked hlooked => ?_
    split
    next => exact pure (by rw [List.append_nil]; exact hlooked.served)
    next binding hbinding =>
      refine (answer bound binding owner).bind_pure fun outcome built hbuilt => ?_
      exact ⟨looked, built, rfl, hlooked, by rwa [hbinding]⟩

end Refers

/-! ### Turns -/

/-- The step binds a result class, constructs a result or resolves a class; or the machine changes
its answers. -/
def Step.Serves : Step → Prop
  | .bind | .construct _ | .resolveClass _ | .change _ _ => True
  | _ => False

/-- The answers that the machine changes to. -/
def Step.vm? : Step → Option Vm
  | .change vm _ => some vm
  | _ => none

/-- The binding that the step is about. -/
def Step.binding (step : Step) (session : Session) : Latch Binding :=
  match step with
  | .resolveClass _ => session.resolver.binder.binding
  | _ => session.binder.binding

/-- The binding that the step has nothing to do with. -/
def Step.spared (step : Step) (session : Session) : Latch Binding :=
  match step with
  | .resolveClass _ => session.binder.binding
  | _ => session.resolver.binder.binding

/-- A binding of the session has this class. -/
def Session.Binds (session : Session) (owner : Handle) : Prop :=
  owner ∈ session.binder.binding.get?.map Binding.owner ∨
    owner ∈ session.resolver.binder.binding.get?.map Binding.owner

theorem Step.binds_iff (step : Step) (session : Session) (owner : Handle) :
    session.Binds owner ↔ owner ∈ (step.binding session).get?.map Binding.owner ∨
      owner ∈ (step.spared session).get?.map Binding.owner := by
  cases step with
  | resolveClass => exact or_comm
  | _ => exact Iff.rfl

namespace Session

variable (session : Session)

theorem run_bind : (run .bind).run session = session.binder.bind >>= fun binder =>
    pure (.handle (binder.binding.get?.map Binding.owner), { session with binder }) := rfl

theorem run_construct (location : Location) : (run (.construct location)).run session =
    session.binder.bind >>= fun binder => StateT.run (match binder.binding.get? with
      | none => pure Answer.unbound
      | some binding => do pure (Answer.handle (← binding.construct location)) : SessionM Answer)
      { session with binder } := rfl

theorem run_resolveClass (owner : Handle) : (run (.resolveClass owner)).run session =
    session.resolver.resolveClass owner >>= fun run => StateT.run (match run.1 with
      | .ok object => pure (Answer.handle (some object))
      | .error error => pure (Answer.resolveError error) : SessionM Answer)
      { session with resolver := run.2 } := rfl

end Session

/-- What a step that serves does with references. -/
theorem Refers.step {step : Step} (h : step.Serves) (hchange : ¬ step.Changes)
    (session : Session) : Refers vm ((Session.run step).run session) fun run made =>
      Served vm (step.binding session) (step.binding run.2) made ∧
        step.spared run.2 = step.spared session := by
  cases step with
  | change vm pending => exact absurd trivial hchange
  | bind =>
    rw [Session.run_bind]
    exact (binder_bind session.binder).bind_pure fun _ _ hmade => ⟨hmade.served, rfl⟩
  | construct location =>
    rw [Session.run_construct]
    refine (binder_bind session.binder).bind fun binder looked hlooked => ?_
    split
    next =>
      refine pure ?_
      rw [List.append_nil]
      exact ⟨hlooked.served, rfl⟩
    next binding hbinding =>
      change Refers vm (binding.construct location >>= fun object =>
        Pure.pure (Answer.handle object, { session with binder })) _
      refine (construct binding location).bind_pure fun object built hbuilt => ?_
      rw [← hbinding] at hbuilt
      exact ⟨⟨looked, built, rfl, hlooked, hbuilt⟩, rfl⟩
  | resolveClass owner =>
    rw [Session.run_resolveClass]
    refine (resolveClass session.resolver owner).bind fun run made hmade => ?_
    split
    next => exact pure (by rw [List.append_nil]; exact ⟨hmade, rfl⟩)
    next => exact pure (by rw [List.append_nil]; exact ⟨hmade, rfl⟩)
  | _ => cases h

namespace Turn

variable (turn : Turn)

/-- The local references that are obtained. -/
def obtained : List Handle := turn.calls.filterMap turn.machine.vm.localRef?

/-- What is obtained for good. -/
def lasting : List Handle := turn.calls.filterMap turn.machine.vm.lastingRef?

/-- The classes that objects are made of. -/
def classes : List Handle := turn.calls.filterMap Call.class?

/-- The references that are dropped. -/
def dropped : List Handle := turn.calls.filterMap Call.dropped?

/-- Local references are given back in the turn in which they are obtained. -/
structure Balanced : Prop where
  /-- They are used and dropped only while they are there, global references are made only of
  classes whose constructor was found, and nothing is there at the end. -/
  ledger : Ledger.enterAll turn.machine.vm {} turn.calls = some {}
  /-- Exactly what is obtained is dropped. -/
  dropped : turn.dropped.Perm turn.obtained
  /-- Nothing is dropped twice. -/
  once : turn.dropped.Nodup
  /-- What was dropped is not used any more. -/
  used : ∀ before object after, turn.calls = before ++ .deleteLocalRef object :: after →
    ∀ call ∈ after, ¬ call.Uses object
  /-- A global reference that is obtained is kept in a binding. -/
  bound : ∀ object, .newGlobalRef object ∈ turn.calls → turn.machine.vm.handles.globalRef ≠ 0 →
    turn.step.binding turn.after =
      .ready ⟨turn.machine.vm.handles.globalRef, turn.machine.vm.handles.foundMethod⟩

/-- What a turn of a step that serves does with references. -/
theorem served (h : turn.step.Serves) : Served turn.machine.vm (turn.step.binding turn.session)
    (turn.step.binding turn.after) (turn.calls.filter Call.refers) ∧
      turn.step.spared turn.after = turn.step.spared turn.session := by
  obtain ⟨session, machine, step⟩ := turn
  by_cases hchange : step.Changes
  · cases step with
    | change vm pending => exact ⟨(Settled.kept _).served, rfl⟩
    | _ => exact hchange.elim
  · obtain ⟨-, made, hcalls, hserved⟩ := Refers.step h hchange session
      (Turn.mk session machine step).start rfl
    have hmade : (Turn.mk session machine step).calls = made := hcalls
    rw [hmade]
    exact hserved

/-- Where everything is given back, and nothing is obtained twice, nothing is used after it was
dropped. -/
theorem used_of_ledger (hledger : Ledger.enterAll turn.machine.vm {} turn.calls = some {})
    (honce : turn.obtained.Nodup) {before after : List Call} {object : Handle}
    (hcalls : turn.calls = before ++ .deleteLocalRef object :: after) :
    ∀ call ∈ after, ¬ call.Uses object := by
  rw [hcalls, Ledger.enterAll_append] at hledger
  obtain ⟨mid, hbefore, hrest⟩ := Option.bind_eq_some_iff.mp hledger
  obtain ⟨left, hdrop, hafter⟩ := Option.bind_eq_some_iff.mp hrest
  obtain ⟨hlive, ⟨⟩⟩ := Option.ite_none_right_eq_some.mp hdrop
  have hperm := Ledger.enterAll_perm hbefore
  rw [Turn.obtained, hcalls, List.filterMap_append, List.nodup_append] at honce
  obtain ⟨hfirst, -, hapart⟩ := honce
  -- `mid` is the ledger when the object is dropped, which holds nothing twice
  have hmid : (before.filterMap Call.dropped? ++ mid.live).Nodup := hperm.nodup_iff.mp hfirst
  refine Ledger.not_uses hafter (List.nodup_append.mp hmid).2.1.not_mem_erase fun hagain => ?_
  -- it was obtained before it was dropped, and would be obtained again
  exact hapart object (hperm.mem_iff.mpr (List.mem_append_right _ hlive)) object hagain rfl

/-- A turn of a step that serves does with references what it should. -/
theorem balanced (h : turn.step.Serves) (hdistinct : turn.machine.vm.handles.locals.Nodup) :
    turn.Balanced := by
  have hserved := (turn.served h).1
  have hledger : Ledger.enterAll turn.machine.vm {} turn.calls = some {} := by
    rw [← Ledger.enterAll_filter]
    exact hserved.ledger
  have hobtained : turn.obtained.Nodup := by
    have hrefers := Call.filterMap_refers (fun call hcall =>
      turn.machine.vm.localRef?_of_not_refers hcall) turn.calls
    rw [Turn.obtained, ← hrefers]
    exact hdistinct.sublist hserved.obtained
  have hdropped : turn.dropped.Perm turn.obtained := by
    have hperm := (Ledger.enterAll_perm hledger).symm
    rwa [List.append_nil, List.nil_append] at hperm
  exact ⟨hledger, hdropped, hdropped.nodup_iff.mpr hobtained,
    fun _ _ _ hcalls => turn.used_of_ledger hledger hobtained hcalls,
    fun object hcall => hserved.bound_of_newGlobalRef (List.mem_filter.mpr ⟨hcall, rfl⟩)⟩

/-- A class of which objects are made is bound. -/
theorem binds_of_mem_classes (h : turn.step.Serves) :
    ∀ owner ∈ turn.classes, turn.after.Binds owner := by
  intro owner howner
  have hclasses := Call.filterMap_refers (fun call hcall => call.class?_of_not_refers hcall)
    turn.calls
  rw [Turn.classes, ← hclasses] at howner
  exact (turn.step.binds_iff _ _).mpr (.inl ((turn.served h).1.classes owner howner))

/-- A class that is bound was bound before, or it was obtained. -/
theorem binds_after (h : turn.step.Serves) {owner : Handle} (howner : turn.after.Binds owner) :
    turn.session.Binds owner ∨ owner ∈ turn.lasting := by
  obtain ⟨hserved, hspared⟩ := turn.served h
  have hlasting := Call.filterMap_refers (fun call hcall =>
    turn.machine.vm.lastingRef?_of_not_refers hcall) turn.calls
  rw [turn.step.binds_iff, Turn.lasting, ← hlasting]
  rcases (turn.step.binds_iff _ _).mp howner with hbound | hother
  · rcases hserved.owner hbound with hbefore | hobtained
    · exact .inl (.inl hbefore)
    · exact .inr hobtained
  · rw [hspared] at hother
    exact .inl (.inr hother)

theorem lasting_subset : ∀ handle ∈ turn.lasting, handle ∈ turn.machine.vm.handles.lasting := by
  intro handle hhandle
  obtain ⟨call, -, hcall⟩ := List.mem_filterMap.mp hhandle
  cases call with
  | newGlobalRef => exact List.mem_filterMap.mpr ⟨_, by simp, hcall⟩
  | newObject => exact List.mem_filterMap.mpr ⟨_, by simp, hcall⟩
  | _ => cases hcall

theorem obtained_subset : ∀ handle ∈ turn.obtained, handle ∈ turn.machine.vm.handles.locals := by
  intro handle hhandle
  obtain ⟨call, -, hcall⟩ := List.mem_filterMap.mp hhandle
  cases call with
  | findClass => exact List.mem_filterMap.mpr ⟨_, by simp, hcall⟩
  | newString => exact List.mem_filterMap.mpr ⟨_, by simp, hcall⟩
  | _ => cases hcall

end Turn

/-! ### Handles -/

/-- Machines that hand out different handles for different things. -/
structure HandOutApart (vms : List Vm) : Prop where
  /-- The handles of a machine that are not null are distinct. -/
  distinct : ∀ vm ∈ vms, vm.handles.nonNull.Nodup
  /-- What one machine hands out for good is no local reference of another. -/
  apart : ∀ vm ∈ vms, ∀ other ∈ vms, vm ≠ other →
    ∀ handle ∈ vm.handles.locals, handle ∉ other.handles.lasting

/-- What is handed out for good is told from local references. -/
theorem Handles.nodup {handles : Handles} (h : handles.nonNull.Nodup) :
    (handles.locals ++ handles.lasting).Nodup := by
  have hperm : [handles.foundClass, handles.foundMethod, handles.globalRef, handles.newString,
      handles.newObject].Perm (handles.foundMethod ::
        ([handles.foundClass, handles.newString] ++ [handles.globalRef, handles.newObject])) :=
    (List.Perm.swap ..).trans (((List.Perm.swap ..).cons _).cons _)
  rw [locals, lasting, ← List.filterMap_append]
  refine ((hperm.filterMap Handle.nonNull?).nodup_iff.mp h).sublist ?_
  exact (List.sublist_cons_self _ _).filterMap _

namespace HandOutApart

variable {vms : List Vm} {other : Vm}

theorem notMem_lasting (h : HandOutApart vms) (hvm : vm ∈ vms) (hother : other ∈ vms)
    {handle : Handle} (hlocal : handle ∈ vm.handles.locals) : handle ∉ other.handles.lasting := by
  by_cases hsame : vm = other
  · subst hsame
    have hnodup := List.nodup_append.mp (Handles.nodup (h.distinct vm hvm))
    exact fun hlasting => hnodup.2.2 handle hlocal handle hlasting rfl
  · exact h.apart vm hvm other hother hsame handle hlocal

end HandOutApart

namespace Session

/-- Every turn finds a machine that is there from the beginning or was changed to. -/
theorem vm_mem_of_mem_turns (session : Session) (machine : Host) (steps : List Step) :
    ∀ turn ∈ turns session machine steps,
      turn.machine.vm ∈ machine.vm :: steps.filterMap Step.vm? := by
  induction steps generalizing session machine with
  | nil => simp [turns]
  | cons step steps ih =>
    let first : Turn := ⟨session, machine, step⟩
    rw [turns_cons]
    refine List.forall_mem_cons.mpr ⟨List.mem_cons_self, fun turn hturn => ?_⟩
    have hlater := ih first.after first.left turn hturn
    by_cases hchange : step.Changes
    · cases step with
      | change vm pending => exact List.mem_cons_of_mem _ hlater
      | _ => exact hchange.elim
    · rw [(first.moved hchange).vm] at hlater
      exact List.cons_subset_cons _ (List.Sublist.filterMap _ (List.sublist_cons_self ..)).subset
        hlater

theorem step_mem_of_mem_turns (session : Session) (machine : Host) (steps : List Step) :
    ∀ turn ∈ turns session machine steps, turn.step ∈ steps := by
  induction steps generalizing session machine with
  | nil => simp [turns]
  | cons step steps ih =>
    rw [turns_cons]
    refine List.forall_mem_cons.mpr ⟨List.mem_cons_self, fun turn hturn => ?_⟩
    exact List.mem_cons_of_mem _ (ih _ _ turn hturn)

/-- The classes of objects were bound before, or obtained in one of the turns. -/
theorem lasting_of_mem_classes {session : Session} {machine : Host} {steps : List Step}
    (hsteps : ∀ step ∈ steps, step.Serves) :
    ∀ turn ∈ turns session machine steps, ∀ owner ∈ turn.classes,
      session.Binds owner ∨ ∃ other ∈ turns session machine steps, owner ∈ other.lasting := by
  induction steps generalizing session machine with
  | nil => simp [turns]
  | cons step steps ih =>
    let first : Turn := ⟨session, machine, step⟩
    obtain ⟨hfirst, hrest⟩ := List.forall_mem_cons.mp hsteps
    have hbinds : ∀ owner, first.after.Binds owner → session.Binds owner ∨
        ∃ other ∈ turns session machine (step :: steps), owner ∈ other.lasting := by
      intro owner howner
      refine (first.binds_after hfirst howner).imp_right fun hlasting => ?_
      exact ⟨first, List.mem_cons_self, hlasting⟩
    rw [turns_cons] at hbinds ⊢
    refine List.forall_mem_cons.mpr ⟨fun owner howner => ?_, fun turn hturn owner howner => ?_⟩
    · exact hbinds owner (first.binds_of_mem_classes hfirst owner howner)
    · rcases ih hrest turn hturn owner howner with hafter | ⟨other, hother, hlasting⟩
      · exact hbinds owner hafter
      · exact .inr ⟨other, List.mem_cons_of_mem _ hother, hlasting⟩

/-- **Local references are balanced.**  In every turn of a script that binds, constructs and
resolves, on machines that hand out different handles for different things, exactly the local
references that are obtained are dropped, once and after their last use.  What any turn obtains for
good, and the classes that objects are made of, are dropped in none. -/
theorem local_references_are_balanced (options : Options) (machine : Host) (steps : List Step)
    (hsteps : ∀ step ∈ steps, step.Serves)
    (hapart : HandOutApart (machine.vm :: steps.filterMap Step.vm?)) :
    (∀ turn ∈ turns (ofOptions options) machine steps, turn.Balanced) ∧
      ∀ turn ∈ turns (ofOptions options) machine steps,
        ∀ other ∈ turns (ofOptions options) machine steps,
          ∀ handle ∈ turn.dropped, handle ∉ other.lasting ∧ handle ∉ other.classes := by
  have hserves : ∀ turn ∈ turns (ofOptions options) machine steps, turn.step.Serves :=
    fun turn hturn => hsteps _ (step_mem_of_mem_turns _ _ _ turn hturn)
  have hvm := vm_mem_of_mem_turns (ofOptions options) machine steps
  have hbalanced : ∀ turn ∈ turns (ofOptions options) machine steps, turn.Balanced := by
    intro turn hturn
    have hnodup := Handles.nodup (hapart.distinct _ (hvm turn hturn))
    exact turn.balanced (hserves turn hturn) (List.nodup_append.mp hnodup).1
  have hlasting : ∀ turn ∈ turns (ofOptions options) machine steps,
      ∀ other ∈ turns (ofOptions options) machine steps,
        ∀ handle ∈ turn.dropped, handle ∉ other.lasting := by
    intro turn hturn other hother handle hdropped hlasting
    have hobtained := (hbalanced turn hturn).dropped.mem_iff.mp hdropped
    exact hapart.notMem_lasting (hvm turn hturn) (hvm other hother)
      (turn.obtained_subset handle hobtained) (other.lasting_subset handle hlasting)
  refine ⟨hbalanced, fun turn hturn other hother handle hdropped =>
    ⟨hlasting turn hturn other hother handle hdropped, fun hclass => ?_⟩⟩
  -- nothing is bound at the beginning, so the class was obtained in one of the turns
  rcases lasting_of_mem_classes hsteps other hother handle hclass with hbound | ⟨owning, howning, h⟩
  · rcases hbound with hbound | hbound <;> cases hbound
  · exact hlasting turn hturn owning howning handle hdropped h

/-- A machine on which result classes have no constructor. -/
def unsuiting : Vm where
  handles := { foundMethod := 0 }

/-- A script that binds, constructs, and fails to bind. -/
def sampleScript : List Step :=
  [.bind, .construct ⟨"A.kt", 1, 2⟩, .change unsuiting none, .resolveClass 7]

theorem sampleScript_balanced : (∀ step ∈ sampleScript, step.Serves) ∧
    HandOutApart ({} :: sampleScript.filterMap Step.vm?) ∧
    (turns (ofOptions {}) { vm := {} } sampleScript).map Turn.dropped = [[256], [1024], [], [256]] ∧
    (turns (ofOptions {}) { vm := {} } sampleScript).map Turn.lasting = [[512], [1280], [], []] ∧
    ∀ turn ∈ turns (ofOptions {}) { vm := {} } sampleScript, turn.Balanced := by
  have hsteps : ∀ step ∈ sampleScript, step.Serves := by simp [sampleScript, Step.Serves]
  have hdistinct : ∀ vm ∈ [({} : Vm), unsuiting], vm.handles.nonNull.Nodup := by decide
  have hlocals : ∀ vm ∈ [({} : Vm), unsuiting], ∀ other ∈ [({} : Vm), unsuiting],
      ∀ handle ∈ vm.handles.locals, handle ∉ other.handles.lasting := by decide
  have hapart : HandOutApart ({} :: sampleScript.filterMap Step.vm?) :=
    ⟨hdistinct, fun vm hvm other hother _ => hlocals vm hvm other hother⟩
  refine ⟨hsteps, hapart, by decide +kernel, by decide +kernel, ?_⟩
  exact (local_references_are_balanced {} { vm := {} } sampleScript hsteps hapart).1

end Session
end ClosureSpan
