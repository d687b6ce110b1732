import ClosureSpan.Proofs.Agent.Exceptions
import ClosureSpan.Proofs.Session.Visits

/-!
# The exception that is left pending

Binding and construction look after the exceptions that their nulls come with, in each place but
one.  A construction that gets no string for the source file ends at once, and whatever exception
came with the null stays pending.  Nobody else leaves one, so an exception that is pending when a
class was resolved tells that there was no string.

## Main definitions

* `Leaves vm x After` — what is pending after a computation that begins with nothing pending.

## Main results

* `Binding.leaves_construct` — an exception is left pending exactly if there is no string and the
  machine throws for it.
* `left_pending_iff` — **the same for binding, construction and resolving.**
-/

namespace ClosureSpan

variable {α β : Type} {vm : Vm}

/-! ### What is left pending -/

/-- On a machine that answers like `vm`, and where no exception is pending, the computation ends
with what `After` has pending for its result, and the machine answers as before. -/
def Leaves (vm : Vm) (x : HostM α) (After : α → Bool → Prop) : Prop :=
  ∀ host : Host, host.vm = vm → host.pending = false →
    After (x.run host).1 (x.run host).2.pending ∧ (x.run host).2.vm = vm

namespace Leaves

variable {x : HostM α} {After : α → Bool → Prop}

theorem pure {a : α} (h : After a false) : Leaves vm (pure a) After := by
  rintro host rfl hpending
  exact ⟨by rwa [← hpending] at h, rfl⟩

/-- What begins with nothing pending may be followed by more of the kind. -/
theorem bind {f : α → HostM β} {Later : β → Bool → Prop} {P : α → Prop}
    (h : Leaves vm x fun a after => after = false ∧ P a)
    (hf : ∀ a, P a → Leaves vm (f a) Later) : Leaves vm (x >>= f) Later := by
  intro host hvm hpending
  obtain ⟨⟨hnone, ha⟩, hvm'⟩ := h host hvm hpending
  rw [Host.run_bind]
  exact hf _ ha _ hvm' hnone

/-- The machine is looked at. -/
theorem get_bind {f : Host → HostM α}
    (hf : ∀ host : Host, host.vm = vm → Leaves vm (f host) After) :
    Leaves vm (get >>= f) After := fun host hvm hpending => hf host hvm host hvm hpending

theorem record (call : Call) : Leaves vm (Host.record call) fun _ after => after = false ∧ True :=
  fun _ hvm hpending => ⟨⟨hpending, trivial⟩, hvm⟩

/-- A careful computation leaves what it is known to leave. -/
theorem of_careful (hbyte : vm.trueByte ≠ 0) {May : Call → Prop} {P : α → Prop}
    (h : Careful false x After) (hmoves : Moves May x P) (hfree : GivesBack May) :
    Leaves vm x fun a after => After a after ∧ P a := by
  rintro host rfl hpending
  exact ⟨⟨(h host hpending hbyte).1, hmoves.gives host⟩, (hmoves.moved hfree host).vm⟩

end Leaves

/-! ### Construction -/

/-- An exception is pending in just this case: no string can be made, and the machine throws. -/
def Vm.ThrowsForString (vm : Vm) : Prop := vm.handles.newString = 0 ∧ vm.throws = true

namespace Native

/-- A null is what an exception comes with. -/
theorem leaves_answered (handle : Handle) : Leaves vm (answered handle) fun result after =>
    (after = true ↔ handle = 0 ∧ vm.throws = true) ∧ result = handle.nonNull? := by
  refine Leaves.get_bind fun host hvm => ?_
  rw [hvm]
  by_cases hraised : handle = 0 ∧ vm.throws = true
  · rw [if_pos hraised]
    rintro host' hvm' -
    exact ⟨⟨iff_of_true rfl hraised, rfl⟩, hvm'⟩
  · rw [if_neg hraised]
    exact Leaves.pure ⟨iff_of_false Bool.false_ne_true hraised, rfl⟩

/-- The text is always passed on, since no zero byte occurs in modified UTF-8. -/
theorem leaves_newString (text : String) : Leaves vm (newString text) fun result after =>
    (after = true ↔ vm.ThrowsForString) ∧ result = vm.handles.newString.nonNull? := by
  have hbytes : terminated? (ModifiedUtf8.encode text) = some (ModifiedUtf8.encode text) :=
    terminated?_of_notMem (ModifiedUtf8.zero_notMem_encode text)
  unfold newString
  rw [hbytes]
  refine (Leaves.record _).bind fun _ _ => Leaves.get_bind fun host hvm => ?_
  rw [hvm]
  exact leaves_answered vm.handles.newString

end Native

/-- **A construction leaves an exception pending exactly if no string can be made and the machine
throws for it**, and then it makes no object. -/
theorem Binding.leaves_construct (hbyte : vm.trueByte ≠ 0) (binding : Binding)
    (location : Location) : Leaves vm (binding.construct location) fun object after =>
      (after = true ↔ vm.ThrowsForString) ∧ (after = true → object = none) := by
  intro host hvm hpending
  have hmoves := moves_construct (fun _ _ => trivial : ∀ call, call.namesStatus = false →
    Call.Any call) binding location
  have hkept : ((construct binding location).run host).2.vm = vm :=
    (hmoves.moved givesBack_any host).vm.trans hvm
  refine ⟨?_, hkept⟩
  obtain ⟨⟨hraised, hresult⟩, hvm'⟩ :=
    Native.leaves_newString location.sourceFile host hvm hpending
  unfold construct
  rw [Host.run_bind, hresult]
  by_cases hnull : vm.handles.newString = 0
  · rw [hnull, Handle.nonNull?_zero]
    exact ⟨hraised, fun _ => rfl⟩
  · -- with a string in hand every null is looked after
    have hquiet : ¬ vm.ThrowsForString := fun hthrows => hnull hthrows.1
    have hnone : ((Native.newString location.sourceFile).run host).2.pending = false :=
      Bool.eq_false_iff.mpr (mt hraised.mp hquiet)
    rw [← hvm'] at hbyte
    have hmade := (careful_ofString binding location vm.handles.newString _ hnone hbyte).1
    rw [Handle.nonNull?_of_ne hnull]
    refine ⟨iff_of_false ?_ hquiet, fun hpending' => ?_⟩
    · exact fun hpending' => Bool.false_ne_true (hmade.symm.trans hpending')
    · exact absurd (hmade.symm.trans hpending') Bool.false_ne_true

/-! ### Binding -/

theorem Latch.leaves_settle (hbyte : vm.trueByte ≠ 0) (latch : Latch α)
    {compute : HostM (Option α)} (hcareful : Careful false compute fun _ after => after = false)
    (hacts : Acts Call.Any compute) :
    Leaves vm (latch.settle compute) fun _ after => after = false ∧ True :=
  Leaves.of_careful hbyte (latch.careful_settle hcareful) (latch.acts_settle hacts) givesBack_any

/-- A look-up is clean, whether it takes place, succeeds or fails. -/
theorem Binder.leaves_bind (hbyte : vm.trueByte ≠ 0) (binder : Binder) :
    Leaves vm binder.bind fun _ after => after = false ∧ True := by
  have hlookUp : Acts Call.Any (Binding.lookUp binder.className) :=
    Binding.acts_lookUp (fun _ _ => trivial) binder.className
  have hsettle := binder.binding.leaves_settle hbyte (Binding.careful_lookUp _) hlookUp
  exact hsettle.bind fun _ _ => Leaves.pure ⟨rfl, trivial⟩

/-! ### Resolving -/

namespace Resolver

/-- Inspecting a class raises nothing, and its errors are errors of their own. -/
theorem leaves_inspection (hbyte : vm.trueByte ≠ 0) (entry : String) (owner : Handle) :
    Leaves vm (Tool.introspector.resolve entry owner).run fun outcome after =>
      after = false ∧ ∀ e, outcome = .error e → e ≠ .resultConstruction := by
  rintro host rfl hpending
  have hacting : Tool.introspector.Acting Call.LeavesExceptions :=
    Tool.introspector_acting fun _ _ => nofun
  have hacts := (hacting.resolve entry owner).acts
  have hcareful := Careful.of_acts hacts givesBack_leavesExceptions (absurd rfl)
  refine ⟨⟨(hcareful host hpending hbyte).1, ?_⟩, (hacts.moved givesBack_leavesExceptions host).vm⟩
  rintro e he rfl
  obtain ⟨outcome, made, host', hran, hinspected⟩ := Tool.runs_resolve host.vm entry owner host rfl
  rw [hran.run_eq] at he
  subst he
  cases hinspected

theorem leaves_answer (hbyte : vm.trueByte ≠ 0) (resolver : Resolver) (binding : Binding)
    (owner : Handle) : Leaves vm (resolver.answer binding owner).run fun outcome after =>
      after = true ↔ outcome = .error .resultConstruction ∧ vm.ThrowsForString := by
  intro host hvm hpending
  obtain ⟨⟨hnone, hkind⟩, hvm'⟩ :=
    leaves_inspection hbyte resolver.entryMethod owner host hvm hpending
  cases hinspection : ((Tool.introspector.resolve resolver.entryMethod owner).run.run host).1 with
  | error e =>
    rw [run_answer_of_error hinspection]
    refine ⟨iff_of_false ?_ ?_, hvm'⟩
    · exact fun hraised => Bool.false_ne_true (hnone.symm.trans hraised)
    · exact fun hboth => hkind e hinspection (Except.error.inj hboth.1)
  | ok location =>
    obtain ⟨⟨hraised, hobject⟩, hvm''⟩ := binding.leaves_construct hbyte location _ hvm' hnone
    rw [run_answer_of_ok hinspection]
    refine ⟨⟨fun hafter => ⟨?_, hraised.mp hafter⟩, fun hboth => hraised.mpr hboth.2⟩, hvm''⟩
    rw [hobject hafter]
    rfl

theorem leaves_afterAcquire (hbyte : vm.trueByte ≠ 0) (resolver : Resolver) (owner : Handle) :
    Leaves vm (resolver.afterAcquire owner) fun run after =>
      after = true ↔ run.1 = .error .resultConstruction ∧ vm.ThrowsForString := by
  unfold afterAcquire
  split
  next => exact Leaves.pure (iff_of_false Bool.false_ne_true fun hboth => nomatch hboth.1)
  next =>
    have hbind : Leaves vm resolver.bind fun _ after => after = false ∧ True :=
      (resolver.binder.leaves_bind hbyte).bind fun _ _ => Leaves.pure ⟨rfl, trivial⟩
    refine hbind.bind fun bound _ => ?_
    split
    next => exact Leaves.pure (iff_of_false Bool.false_ne_true fun hboth => nomatch hboth.1)
    next binding _ => exact bound.leaves_answer hbyte binding owner

/-- An exception is left pending only by a construction without a string. -/
theorem leaves_resolveClass (hbyte : vm.trueByte ≠ 0) (resolver : Resolver) (owner : Handle) :
    Leaves vm (resolver.resolveClass owner) fun run after =>
      after = true ↔ run.1 = .error .resultConstruction ∧ vm.ThrowsForString := by
  have hjavaVm : Leaves vm Native.javaVm fun _ after => after = false ∧ True :=
    Leaves.of_careful hbyte Native.careful_javaVm (Native.acts_javaVm trivial) givesBack_any
  have hacquire : ∀ reachable,
      Leaves vm (resolver.acquire reachable) fun _ after => after = false ∧ True := by
    intro reachable
    have hacts : Acts Call.LeavesExceptions (negotiate reachable) :=
      acts_negotiate (fun call hcall => by rintro rfl; cases hcall) (fun _ => nofun) reachable
    have hcareful := Careful.of_acts hacts givesBack_leavesExceptions (absurd rfl)
    have hany : Acts Call.Any (negotiate reachable) :=
      acts_negotiate (fun _ _ => trivial) (fun _ => trivial) reachable
    exact (resolver.capability.leaves_settle hbyte hcareful hany).bind fun _ _ =>
      Leaves.pure ⟨rfl, trivial⟩
  rw [resolveClass_eq]
  refine hjavaVm.bind fun reachable _ => (hacquire reachable).bind fun acquired _ => ?_
  exact acquired.leaves_afterAcquire hbyte owner

end Resolver

/-- **An exception is left pending for one reason only.**  On a machine that tells of exceptions,
and with none pending at first: binding leaves none.  A construction leaves one exactly if no string
can be made for the source file and the machine throws for it.  Resolving a class leaves one exactly
if it comes as far as this construction, and it fails then. -/
theorem left_pending_iff {host : Host} (hpending : host.pending = false)
    (hbyte : host.vm.trueByte ≠ 0) :
    (∀ binder : Binder, (binder.bind.run host).2.pending = false) ∧
    (∀ (binding : Binding) (location : Location),
      ((binding.construct location).run host).2.pending = true ↔ host.vm.ThrowsForString) ∧
    ∀ (resolver : Resolver) (owner : Handle),
      ((resolver.resolveClass owner).run host).2.pending = true ↔
        ((resolver.resolveClass owner).run host).1.1 = .error .resultConstruction ∧
          host.vm.ThrowsForString := by
  refine ⟨fun binder => ?_, fun binding location => ?_, fun resolver owner => ?_⟩
  · exact (binder.leaves_bind hbyte host rfl hpending).1.1
  · exact (binding.leaves_construct hbyte location host rfl hpending).1.1
  · exact (resolver.leaves_resolveClass hbyte owner host rfl hpending).1

/-- The machine of `Agent.withoutStrings`, where strings can be made but no objects. -/
def withoutObjects : Vm := { Agent.withoutStrings with handles := { newObject := 0 } }

/-- Without objects, resolving fails at the same stage and leaves nothing pending. -/
theorem left_pending_iff_withoutObjects :
    (((Resolver.ofOptions {}).resolveClass 7).run { vm := withoutObjects }).1.1 =
      .error .resultConstruction ∧
    (((Resolver.ofOptions {}).resolveClass 7).run { vm := withoutObjects }).2.pending = false := by
  have hpending : ({ vm := withoutObjects } : Host).pending = false := rfl
  have hbyte : ({ vm := withoutObjects } : Host).vm.trueByte ≠ 0 := by decide
  have hleft := (left_pending_iff hpending hbyte).2.2 (Resolver.ofOptions {}) 7
  refine ⟨by decide +kernel, Bool.eq_false_iff.mpr fun hraised => ?_⟩
  have hnull : withoutObjects.handles.newString = 0 := (hleft.mp hraised).2.1
  exact absurd hnull (by decide)

/-- Where no strings can be made, construction and resolving begin with nothing pending and leave an
exception. -/
theorem left_pending_withoutStrings :
    ({ vm := Agent.withoutStrings } : Host).pending = false ∧
    ((Binding.construct ⟨512, 768⟩ ⟨"A.kt", 3, 3⟩).run
      { vm := Agent.withoutStrings }).2.pending = true ∧
    (((Resolver.ofOptions {}).resolveClass 7).run
      { vm := Agent.withoutStrings }).2.pending = true := by
  decide +kernel

end ClosureSpan
