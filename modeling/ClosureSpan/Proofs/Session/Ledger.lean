import Mathlib.Data.List.Perm.Basic
import ClosureSpan.Session.Binding

/-!
# Ledgers of local references

A look-up of a result class obtains a local reference to the class, and a construction one to a
string.  Both are dropped when they were used for the last time, wherever the operation ends.  What
is obtained for good, the global reference to the class and the result, is never dropped.

What an operation can do with references is said once: a look-up ends at one of five places, and a
construction at one of three.  A ledger of local references follows the calls, and it breaks where
a reference is used that is not there.  Whatever a ledger follows to the end is conserved, so it is
enough that the ledger of each operation is empty at its end.

## Main definitions

* `Ledger`, `Ledger.enter` — the local references that are there, call by call.
* `LookedUp`, `Constructed` — what look-ups and constructions do with references.
* `Served` — what is done with references between two states of a binding.

## Main results

* `Ledger.enterAll_perm`, `Ledger.not_uses` — what a ledger says of the calls that it followed.
* `Served.ledger` — whatever is served, the ledger is empty at the end.
-/

namespace ClosureSpan

variable {β : Type} {vm : Vm}

/-! ### Ledgers -/

/-- Whether the call obtains, uses or drops references. -/
def Call.refers : Call → Bool
  | findClass _ | getMethodId _ _ _ | newString _ | newGlobalRef _ | deleteLocalRef _
  | newObject _ _ _ _ _ => true
  | _ => false

/-- The reference that a call drops. -/
def Call.dropped? : Call → Option Handle
  | deleteLocalRef object => some object
  | _ => none

/-- The class of the object that a call makes. -/
def Call.class? : Call → Option Handle
  | newObject owner _ _ _ _ => some owner
  | _ => none

/-- The call works with this local reference, or drops it. -/
def Call.Uses (call : Call) (object : Handle) : Prop :=
  match call with
  | getMethodId owner _ _ => owner = object
  | newGlobalRef original => original = object
  | newObject _ _ text _ _ => text = object
  | deleteLocalRef dropped => dropped = object
  | _ => False

/-- The local reference that the machine hands out for a call. -/
def Vm.localRef? (vm : Vm) : Call → Option Handle
  | .findClass _ => vm.handles.foundClass.nonNull?
  | .newString _ => vm.handles.newString.nonNull?
  | _ => none

/-- What the machine hands out for good. -/
def Vm.lastingRef? (vm : Vm) : Call → Option Handle
  | .newGlobalRef _ => vm.handles.globalRef.nonNull?
  | .newObject _ _ _ _ _ => vm.handles.newObject.nonNull?
  | _ => none

theorem Call.class?_of_not_refers {call : Call} (h : call.refers = false) : call.class? = none := by
  cases call with
  | newObject => cases h
  | _ => rfl

theorem Vm.lastingRef?_of_not_refers (vm : Vm) {call : Call} (h : call.refers = false) :
    vm.lastingRef? call = none := by
  cases call with
  | newGlobalRef | newObject => cases h
  | _ => rfl

theorem Vm.localRef?_of_not_refers (vm : Vm) {call : Call} (h : call.refers = false) :
    vm.localRef? call = none := by
  cases call with
  | findClass | newString => cases h
  | _ => rfl

/-- What only calls that refer have is not lost among them. -/
theorem Call.filterMap_refers {f : Call → Option β}
    (h : ∀ call, call.refers = false → f call = none)
    (calls : List Call) : (calls.filter Call.refers).filterMap f = calls.filterMap f := by
  rw [List.filterMap_filter]
  refine List.filterMap_congr fun call _ => ?_
  cases hcall : call.refers with
  | false => exact (h call hcall).symm
  | true => rfl

/-- The local references that the machine hands out. -/
def Handles.locals (handles : Handles) : List Handle :=
  [handles.foundClass, handles.newString].filterMap Handle.nonNull?

/-- What the machine hands out for good. -/
def Handles.lasting (handles : Handles) : List Handle :=
  [handles.globalRef, handles.newObject].filterMap Handle.nonNull?

/-- All handles that are not null. -/
def Handles.nonNull (handles : Handles) : List Handle :=
  [handles.foundClass, handles.foundMethod, handles.globalRef, handles.newString,
    handles.newObject].filterMap Handle.nonNull?

/-- The local references of a program. -/
structure Ledger where
  /-- The references that are there. -/
  live : List Handle := []
  /-- The one whose constructor was found last, as long as none was dropped since. -/
  suited : Option Handle := none
  deriving Repr, DecidableEq

namespace Ledger

/-- The ledger after a call.  It breaks if the call uses or drops a reference that is not there, or
makes a global reference to a class whose constructor was not found. -/
def enter (vm : Vm) (ledger : Ledger) (call : Call) : Option Ledger :=
  match call with
  | .findClass _ | .newString _ =>
    some { ledger with live := (vm.localRef? call).toList ++ ledger.live }
  | .getMethodId owner _ _ =>
    if owner ∈ ledger.live then
      some { ledger with suited := if vm.handles.foundMethod = 0 then none else some owner }
    else none
  | .newGlobalRef object =>
    if object ∈ ledger.live ∧ ledger.suited = some object then some ledger else none
  | .newObject _ _ text _ _ => if text ∈ ledger.live then some ledger else none
  | .deleteLocalRef object =>
    if object ∈ ledger.live then some { live := ledger.live.erase object } else none
  | _ => some ledger

/-- The ledger after some calls. -/
def enterAll (vm : Vm) (ledger : Ledger) (calls : List Call) : Option Ledger :=
  calls.foldlM (enter vm) ledger

@[simp] theorem enterAll_nil (ledger : Ledger) : ledger.enterAll vm [] = some ledger := rfl

@[simp] theorem enterAll_cons (ledger : Ledger) (call : Call) (calls : List Call) :
    ledger.enterAll vm (call :: calls) =
      (ledger.enter vm call).bind fun after => after.enterAll vm calls := rfl

theorem enterAll_append (ledger : Ledger) (calls more : List Call) :
    ledger.enterAll vm (calls ++ more) =
      (ledger.enterAll vm calls).bind fun after => after.enterAll vm more :=
  List.foldlM_append ..

/-- What does not refer is not entered. -/
theorem enter_of_not_refers {call : Call} (h : call.refers = false) (ledger : Ledger) :
    ledger.enter vm call = some ledger := by
  cases call with
  | findClass | getMethodId | newString | newGlobalRef | deleteLocalRef | newObject => cases h
  | _ => rfl

theorem enterAll_filter (ledger : Ledger) (calls : List Call) :
    ledger.enterAll vm (calls.filter Call.refers) = ledger.enterAll vm calls := by
  induction calls generalizing ledger with
  | nil => rfl
  | cons call calls ih =>
    cases hcall : call.refers with
    | false =>
      rw [List.filter_cons_of_neg (by simp [hcall]), enterAll_cons, enter_of_not_refers hcall]
      exact ih ledger
    | true =>
      rw [List.filter_cons_of_pos hcall, enterAll_cons, enterAll_cons]
      exact congrArg _ (funext ih)

/-- A call uses what is there.  What was there or is obtained is dropped or is there afterwards. -/
theorem enter_eq_some {ledger after : Ledger} {call : Call}
    (h : ledger.enter vm call = some after) :
    (∀ object, call.Uses object → object ∈ ledger.live) ∧
      (ledger.live ++ (vm.localRef? call).toList).Perm (call.dropped?.toList ++ after.live) := by
  cases call with
  | findClass name =>
    cases h
    exact ⟨nofun, List.perm_append_comm⟩
  | newString text =>
    cases h
    exact ⟨nofun, List.perm_append_comm⟩
  | getMethodId owner name signature =>
    obtain ⟨hlive, ⟨⟩⟩ := Option.ite_none_right_eq_some.mp h
    exact ⟨fun _ hsame => hsame ▸ hlive, by simp [Vm.localRef?, Call.dropped?]⟩
  | newGlobalRef original =>
    obtain ⟨hlive, ⟨⟩⟩ := Option.ite_none_right_eq_some.mp h
    exact ⟨fun _ hsame => hsame ▸ hlive.1, by simp [Vm.localRef?, Call.dropped?]⟩
  | newObject owner constructor text start stop =>
    obtain ⟨hlive, ⟨⟩⟩ := Option.ite_none_right_eq_some.mp h
    exact ⟨fun _ hsame => hsame ▸ hlive, by simp [Vm.localRef?, Call.dropped?]⟩
  | deleteLocalRef object =>
    obtain ⟨hlive, ⟨⟩⟩ := Option.ite_none_right_eq_some.mp h
    refine ⟨fun _ hsame => hsame ▸ hlive, ?_⟩
    simpa [Vm.localRef?, Call.dropped?] using List.perm_cons_erase hlive
  | _ =>
    cases h
    exact ⟨nofun, by simp [Vm.localRef?, Call.dropped?]⟩

/-- **References are conserved**: each that was there or is obtained is dropped, or is there at the
end. -/
theorem enterAll_perm {ledger left : Ledger} {calls : List Call}
    (h : ledger.enterAll vm calls = some left) :
    (ledger.live ++ calls.filterMap vm.localRef?).Perm
      (calls.filterMap Call.dropped? ++ left.live) := by
  induction calls generalizing ledger with
  | nil =>
    cases h
    simp
  | cons call calls ih =>
    obtain ⟨after, hafter, hrest⟩ := Option.bind_eq_some_iff.mp h
    have hstep := (enter_eq_some hafter).2
    have hcalls := ih hrest
    -- what the first call obtains and drops stands in front of the lists for the rest
    simp only [List.filterMap_eq_flatMap_toList, List.flatMap_cons] at hcalls ⊢
    rw [← List.append_assoc]
    refine (hstep.append_right _).trans ?_
    rw [List.append_assoc, List.append_assoc]
    exact hcalls.append_left _

/-- What is not there, and is not obtained again, is not used. -/
theorem not_uses {ledger left : Ledger} {calls : List Call} {object : Handle}
    (h : ledger.enterAll vm calls = some left) (hlive : object ∉ ledger.live)
    (hobtained : object ∉ calls.filterMap vm.localRef?) : ∀ call ∈ calls, ¬ call.Uses object := by
  induction calls generalizing ledger with
  | nil => simp
  | cons call calls ih =>
    obtain ⟨after, hafter, hrest⟩ := Option.bind_eq_some_iff.mp h
    obtain ⟨huses, hperm⟩ := enter_eq_some hafter
    rw [List.filterMap_eq_flatMap_toList, List.flatMap_cons, List.mem_append, not_or,
      ← List.filterMap_eq_flatMap_toList] at hobtained
    -- the call neither leaves the object there nor obtains it
    have hgone : object ∉ after.live := by
      intro hlater
      rcases List.mem_append.mp (hperm.mem_iff.mpr (List.mem_append_right _ hlater)) with hin | hin
      · exact hlive hin
      · exact hobtained.1 hin
    refine List.forall_mem_cons.mpr ⟨fun hcall => hlive (huses object hcall), ?_⟩
    exact ih hrest hgone hobtained.2

end Ledger

/-! ### What operations do with references -/

/-- What a look-up of a result class does with references, and its outcome. -/
inductive LookedUp (vm : Vm) : Option Binding → List Call → Prop
  /-- The name of the class cannot be passed. -/
  | unasked : LookedUp vm none []
  /-- There is no such class. -/
  | notFound (name : Bytes) (hclass : vm.handles.foundClass = 0) :
    LookedUp vm none [.findClass name]
  /-- The class has no such constructor. -/
  | unsuited (name constructor signature : Bytes) (hclass : vm.handles.foundClass ≠ 0)
    (hmethod : vm.handles.foundMethod = 0) :
    LookedUp vm none [.findClass name, .getMethodId vm.handles.foundClass constructor signature,
      .deleteLocalRef vm.handles.foundClass]
  /-- There is no global reference to the class. -/
  | unkept (name constructor signature : Bytes) (hclass : vm.handles.foundClass ≠ 0)
    (hmethod : vm.handles.foundMethod ≠ 0) (hglobal : vm.handles.globalRef = 0) :
    LookedUp vm none [.findClass name, .getMethodId vm.handles.foundClass constructor signature,
      .newGlobalRef vm.handles.foundClass, .deleteLocalRef vm.handles.foundClass]
  /-- The class is bound. -/
  | bound (name constructor signature : Bytes) (hclass : vm.handles.foundClass ≠ 0)
    (hmethod : vm.handles.foundMethod ≠ 0) (hglobal : vm.handles.globalRef ≠ 0) :
    LookedUp vm (some ⟨vm.handles.globalRef, vm.handles.foundMethod⟩)
      [.findClass name, .getMethodId vm.handles.foundClass constructor signature,
        .newGlobalRef vm.handles.foundClass, .deleteLocalRef vm.handles.foundClass]

/-- What the construction of a result does with references, if there is a binding. -/
inductive Constructed (vm : Vm) : Option Binding → List Call → Prop
  /-- There is nothing to be constructed. -/
  | unasked (binding : Option Binding) : Constructed vm binding []
  /-- There is no string. -/
  | unnamed (binding : Binding) (text : Bytes) (hstring : vm.handles.newString = 0) :
    Constructed vm (some binding) [.newString text]
  /-- An object is asked for. -/
  | asked (binding : Binding) (text : Bytes) (start stop : Int)
    (hstring : vm.handles.newString ≠ 0) :
    Constructed vm (some binding) [.newString text,
      .newObject binding.owner binding.constructor vm.handles.newString start stop,
      .deleteLocalRef vm.handles.newString]

/-- What is done with references to settle a binding. -/
inductive Settled (vm : Vm) : Latch Binding → Latch Binding → List Call → Prop
  /-- A class is looked up. -/
  | first {outcome : Option Binding} {made : List Call} (h : LookedUp vm outcome made) :
    Settled vm .fresh (.ofOutcome outcome) made
  /-- Nothing is done. -/
  | kept (latch : Latch Binding) : Settled vm latch latch []

/-- What is done with references between two states of a binding: it may be settled, and then a
result may be constructed. -/
def Served (vm : Vm) (before after : Latch Binding) (made : List Call) : Prop :=
  ∃ looked built, made = looked ++ built ∧ Settled vm before after looked ∧
    Constructed vm after.get? built

theorem Settled.served {before after : Latch Binding} {made : List Call}
    (h : Settled vm before after made) : Served vm before after made :=
  ⟨made, [], (List.append_nil made).symm, h, .unasked _⟩

/-! ### What is obtained is dropped -/

namespace LookedUp

variable {outcome : Option Binding} {made : List Call}

/-- The ledger of a look-up is empty at the end. -/
theorem ledger (h : LookedUp vm outcome made) : Ledger.enterAll vm {} made = some {} := by
  cases h <;> simp [Ledger.enter, Vm.localRef?, Handle.nonNull?, *]

/-- At most one class is found. -/
theorem obtained (h : LookedUp vm outcome made) :
    (made.filterMap vm.localRef?).Sublist ([vm.handles.foundClass].filterMap Handle.nonNull?) := by
  cases h <;> simp [List.filterMap_cons, Vm.localRef?, Handle.nonNull?, *]

/-- A global reference is bound. -/
theorem bound_of_newGlobalRef (h : LookedUp vm outcome made) {object : Handle}
    (hcall : .newGlobalRef object ∈ made) (hglobal : vm.handles.globalRef ≠ 0) :
    outcome = some ⟨vm.handles.globalRef, vm.handles.foundMethod⟩ := by
  cases h with
  | unasked => cases hcall
  | notFound => simp at hcall
  | unsuited => simp at hcall
  | unkept _ _ _ _ _ hnull => exact absurd hnull hglobal
  | bound => rfl

/-- A look-up makes no object. -/
theorem classes (h : LookedUp vm outcome made) : made.filterMap Call.class? = [] := by
  cases h <;> rfl

/-- What is bound was obtained. -/
theorem owner_mem_lasting {binding : Binding} (h : LookedUp vm (some binding) made) :
    binding.owner ∈ made.filterMap vm.lastingRef? := by
  cases h with
  | bound _ _ _ _ _ hglobal => simp [List.filterMap_cons, Vm.lastingRef?, Handle.nonNull?, hglobal]

end LookedUp

namespace Constructed

variable {binding : Option Binding} {made : List Call}

/-- The ledger of a construction is empty at the end. -/
theorem ledger (h : Constructed vm binding made) : Ledger.enterAll vm {} made = some {} := by
  cases h <;> simp [Ledger.enter, Vm.localRef?, Handle.nonNull?, *]

/-- At most one string is made. -/
theorem obtained (h : Constructed vm binding made) :
    (made.filterMap vm.localRef?).Sublist ([vm.handles.newString].filterMap Handle.nonNull?) := by
  cases h <;> simp [List.filterMap_cons, Vm.localRef?, Handle.nonNull?, *]

theorem newGlobalRef_notMem (h : Constructed vm binding made) (object : Handle) :
    .newGlobalRef object ∉ made := by
  cases h <;> simp

/-- Objects are made of the class of the binding. -/
theorem classes (h : Constructed vm binding made) :
    ∀ owner ∈ made.filterMap Call.class?, owner ∈ binding.map Binding.owner := by
  cases h <;> simp [List.filterMap_cons, Call.class?]

end Constructed

/-- What is bound was bound before, or it was obtained. -/
theorem Settled.owner {before after : Latch Binding} {made : List Call}
    (h : Settled vm before after made) {owner : Handle}
    (howner : owner ∈ after.get?.map Binding.owner) :
    owner ∈ before.get?.map Binding.owner ∨ owner ∈ made.filterMap vm.lastingRef? := by
  cases h with
  | kept => exact .inl howner
  | @first outcome _ hlookedUp =>
    rw [Latch.get?_ofOutcome] at howner
    obtain ⟨binding, rfl, rfl⟩ := Option.map_eq_some_iff.mp howner
    exact .inr hlookedUp.owner_mem_lasting

namespace Served

variable {before after : Latch Binding} {made : List Call}

theorem cases (h : Served vm before after made) : ∃ outcome looked built,
    made = looked ++ built ∧ LookedUp vm outcome looked ∧ Constructed vm after.get? built ∧
      (looked ≠ [] → after = .ofOutcome outcome) := by
  obtain ⟨looked, built, rfl, hlooked, hbuilt⟩ := h
  cases hlooked with
  | first hlookedUp => exact ⟨_, _, built, rfl, hlookedUp, hbuilt, fun _ => rfl⟩
  | kept => exact ⟨none, [], built, rfl, .unasked, hbuilt, fun hne => absurd rfl hne⟩

theorem ledger (h : Served vm before after made) : Ledger.enterAll vm {} made = some {} := by
  obtain ⟨outcome, looked, built, rfl, hlooked, hbuilt, -⟩ := h.cases
  rw [Ledger.enterAll_append, hlooked.ledger]
  exact hbuilt.ledger

theorem obtained (h : Served vm before after made) :
    (made.filterMap vm.localRef?).Sublist vm.handles.locals := by
  obtain ⟨outcome, looked, built, rfl, hlooked, hbuilt, -⟩ := h.cases
  have hlocals : vm.handles.locals = [vm.handles.foundClass].filterMap Handle.nonNull? ++
      [vm.handles.newString].filterMap Handle.nonNull? := by
    rw [← List.filterMap_append]
    rfl
  rw [List.filterMap_append, hlocals]
  exact hlooked.obtained.append hbuilt.obtained

theorem bound_of_newGlobalRef (h : Served vm before after made) {object : Handle}
    (hcall : .newGlobalRef object ∈ made) (hglobal : vm.handles.globalRef ≠ 0) :
    after = .ready ⟨vm.handles.globalRef, vm.handles.foundMethod⟩ := by
  obtain ⟨outcome, looked, built, rfl, hlooked, hbuilt, hafter⟩ := h.cases
  have hlookedUp : .newGlobalRef object ∈ looked :=
    (List.mem_append.mp hcall).resolve_right (hbuilt.newGlobalRef_notMem object)
  rw [hafter (List.ne_nil_of_mem hlookedUp), hlooked.bound_of_newGlobalRef hlookedUp hglobal]
  rfl

theorem owner (h : Served vm before after made) {owner : Handle}
    (howner : owner ∈ after.get?.map Binding.owner) :
    owner ∈ before.get?.map Binding.owner ∨ owner ∈ made.filterMap vm.lastingRef? := by
  obtain ⟨looked, built, rfl, hlooked, -⟩ := h
  refine (hlooked.owner howner).imp_right fun hlasting => ?_
  rw [List.filterMap_append]
  exact List.mem_append_left _ hlasting

/-- Objects are made of the class that is bound. -/
theorem classes (h : Served vm before after made) :
    ∀ owner ∈ made.filterMap Call.class?, owner ∈ after.get?.map Binding.owner := by
  obtain ⟨outcome, looked, built, rfl, hlooked, hbuilt, -⟩ := h.cases
  rw [List.filterMap_append, hlooked.classes, List.nil_append]
  exact hbuilt.classes

end Served

end ClosureSpan
