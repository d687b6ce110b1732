import Mathlib.Order.Bounds.Basic
import ClosureSpan.ClassSet
import ClosureSpan.Location

/-!
# A class set only grows

Whatever is offered to a class set, the classes that it holds keep their numbers: a class that is
taken gets the next number, and what is refused leaves no trace.  All answers of a class set are
about one class, so none of them changes either.

## Main definitions

* `Introspector.AlikeAt` — two sources that answer alike about a method.
* `Offer`, `ClassSet.take`, `ClassSet.takeAll` — what is offered to a class set, and what it does.
* `ClassSet.Grows` — a later state of a class set.
* `PersistentStore answers set` — what is said of a class set with a history.

## Main results

* `Introspector.resolve_congr` — sources that answer alike locate a class alike.
* `ClassSet.grows_takeAll` — a class set only grows.
* `ClassSet.numbered_takeAll` — the classes are numbered one after the other.
* `ClassSet.is_persistent` — **a class set is a persistent store.**
-/

namespace ClosureSpan

/-! ### Sources that answer alike -/

/-- A use depends on the body only at the value that is held. -/
theorem Held.use_congr {ε α β : Type} {acquire : ExceptT ε Id (Held Id α)}
    {body other : α → ExceptT ε Id β}
    (h : ∀ held, acquire.run.run = .ok held → other held.value = body held.value) :
    use acquire other = use acquire body := by
  apply ExceptT.ext
  rw [run_use, run_use]
  cases hacquire : acquire.run.run with
  | error fault =>
    change acquire.run = Except.error fault at hacquire
    rw [hacquire]
    rfl
  | ok held =>
    have hbody := h held hacquire
    change acquire.run = Except.ok held at hacquire
    rw [hacquire]
    change (do
      let outcome ← (other held.value).run
      held.release
      pure outcome) = do
        let outcome ← (body held.value).run
        held.release
        pure outcome
    rw [hbody]

namespace Introspector

section alike

variable {m : Type → Type} [Monad m] {κ μ : Type}

/-- The sources answer alike about the method. -/
structure AlikeAt (source other : Introspector m κ μ) (method : μ) : Prop where
  /-- They give it the same modifiers. -/
  modifiers : other.modifiers method = source.modifiers method
  /-- They give it the same name. -/
  name : other.name method = source.name method
  /-- They give it the same variables. -/
  locals : other.locals method = source.locals method
  /-- They give it the same lines. -/
  lines : other.lines method = source.lines method

variable {source other : Introspector m κ μ} (hreport : other.report = source.report)

include hreport

theorem candidate_congr {method : μ} (h : source.AlikeAt other method) (entry : String) :
    other.candidate entry method = source.candidate entry method := by
  unfold candidate hasName measure
  rw [h.modifiers, h.name, h.locals, h.lines, hreport]

theorem scan_congr {methods : List μ} (h : ∀ method ∈ methods, source.AlikeAt other method)
    (entry : String) : other.scan entry methods = source.scan entry methods := by
  induction methods with
  | nil => rfl
  | cons method methods ih =>
    obtain ⟨hmethod, hmethods⟩ := List.forall_mem_cons.mp h
    rw [scan_cons, scan_cons, candidate_congr hreport hmethod, ih hmethods]

end alike

variable {κ μ : Type} {source other : Introspector Id κ μ} {owner : κ}

/-- Sources select alike if they answer alike about the methods of the class. -/
theorem select_congr (hreport : other.report = source.report)
    (howner : other.methods owner = source.methods owner)
    (h : ∀ held, (source.methods owner).run.run = .ok held →
      ∀ method ∈ held.value, source.AlikeAt other method) (entry : String) :
    other.select entry owner = source.select entry owner := by
  unfold select
  rw [howner]
  exact Held.use_congr fun held hheld => scan_congr hreport (h held hheld) entry

/-- **Sources that answer alike about a class locate it alike.** -/
theorem resolve_congr (hreport : other.report = source.report) {entry : String}
    (hselect : other.select entry owner = source.select entry owner)
    (hfile : other.sourceFile owner = source.sourceFile owner) :
    other.resolve entry owner = source.resolve entry owner := by
  unfold resolve
  rw [hselect, hfile, hreport]

end Introspector

/-! ### Offers -/

/-- What is offered to a class set. -/
inductive Offer where
  /-- A class, to be inserted. -/
  | parsed (file : ClassFile)
  /-- Bytes, to be parsed and added. -/
  | unparsed (bs : Bytes)

/-- The class that is offered. -/
def Offer.file : Offer → Except ParseError ClassFile
  | parsed file => .ok file
  | unparsed bs => ClassFile.parse bs

namespace ClassSet

/-- What the set answers to an offer, and the set afterwards. -/
def take (set : ClassSet) : Offer → Except ParseError Nat × ClassSet
  | .parsed file => (.ok (set.insert file).1, (set.insert file).2)
  | .unparsed bs =>
    match set.add bs with
    | .ok (owner, grown) => (.ok owner, grown)
    | .error e => (.error e, set)

/-- What the set answers to one offer after the other, and the set after all of them. -/
def takeAll (set : ClassSet) : List Offer → List (Except ParseError Nat) × ClassSet
  | [] => ([], set)
  | offer :: offers =>
    ((set.take offer).1 :: ((set.take offer).2.takeAll offers).1,
      ((set.take offer).2.takeAll offers).2)

variable {set later : ClassSet}

/-- What is no class file is refused. -/
theorem take_of_error {offer : Offer} {e : ParseError} (h : offer.file = .error e) :
    set.take offer = (.error e, set) := by
  cases offer with
  | parsed file => cases h
  | unparsed bs =>
    change ClassFile.parse bs = .error e at h
    rw [take, add, h]
    rfl

/-- A class gets the next number. -/
theorem take_of_ok {offer : Offer} {file : ClassFile} (h : offer.file = .ok file) :
    set.take offer = (.ok set.size, ⟨set.classes.push file⟩) := by
  cases offer with
  | parsed file =>
    cases h
    rfl
  | unparsed bs =>
    change ClassFile.parse bs = .ok file at h
    rw [take, add, h]
    rfl

/-- The numbers that are given out are the next ones. -/
theorem numbered_takeAll (set : ClassSet) (offers : List Offer) :
    ∃ count, (set.takeAll offers).1.filterMap Except.toOption = List.range' set.size count ∧
      (set.takeAll offers).2.size = set.size + count := by
  induction offers generalizing set with
  | nil => exact ⟨0, rfl, rfl⟩
  | cons offer offers ih =>
    rw [takeAll]
    cases hfile : offer.file with
    | error e =>
      rw [take_of_error hfile]
      exact ih set
    | ok file =>
      obtain ⟨count, hnumbers, hsize⟩ := ih ⟨set.classes.push file⟩
      have hpush : (ClassSet.mk (set.classes.push file)).size = set.size + 1 := Array.size_push ..
      rw [hpush] at hnumbers hsize
      refine ⟨count + 1, ?_, ?_⟩
      · rw [take_of_ok hfile, List.range'_succ, ← hnumbers]
        rfl
      · rw [take_of_ok hfile, hsize]
        omega

/-! ### Growth -/

/-- The later set has the classes of the set under their numbers, and perhaps more. -/
def Grows (set later : ClassSet) : Prop :=
  ∃ more : Array ClassFile, later.classes = set.classes ++ more

theorem Grows.refl (set : ClassSet) : set.Grows set := ⟨#[], Array.append_empty.symm⟩

theorem Grows.trans {last : ClassSet} (h : set.Grows later) (h' : later.Grows last) :
    set.Grows last := by
  obtain ⟨more, hmore⟩ := h
  obtain ⟨more', hmore'⟩ := h'
  exact ⟨more ++ more', by rw [hmore', hmore, Array.append_assoc]⟩

theorem grows_take (set : ClassSet) (offer : Offer) : set.Grows (set.take offer).2 := by
  cases hfile : offer.file with
  | error e =>
    rw [take_of_error hfile]
    exact .refl set
  | ok file =>
    rw [take_of_ok hfile]
    exact ⟨#[file], Array.push_eq_append⟩

/-- **A class set only grows.** -/
theorem grows_takeAll (set : ClassSet) (offers : List Offer) :
    set.Grows (set.takeAll offers).2 := by
  induction offers generalizing set with
  | nil => exact .refl set
  | cons offer offers ih => exact (set.grows_take offer).trans (ih _)

namespace Grows

variable (h : set.Grows later)

include h

/-- A class keeps its number. -/
theorem get?_eq {owner : Nat} (howner : owner < set.size) : later.get? owner = set.get? owner := by
  obtain ⟨more, hmore⟩ := h
  rw [get?, get?, hmore]
  exact Array.getElem?_append_left howner

/-- What is found once is found forever. -/
theorem find?_eq {name : String} {owner : Nat} (hfound : set.find? name = some owner) :
    later.find? name = some owner := by
  obtain ⟨more, hmore⟩ := h
  rw [find?] at hfound
  rw [find?, hmore, Array.findIdx?_append, hfound, Option.some_or]

/-! ### Answers -/

theorem classFor_eq {owner : Nat} (howner : owner < set.size) (query : Query) :
    later.classFor query owner = set.classFor query owner := by
  rw [classFor, classFor, h.get?_eq howner]

theorem methodFor_eq {method : MethodRef} (howner : method.owner < set.size) (query : Query) :
    later.methodFor query method = set.methodFor query method := by
  rw [methodFor, methodFor, h.classFor_eq howner]

/-- The answers about a method stay the same. -/
theorem alikeAt {method : MethodRef} (howner : method.owner < set.size) :
    set.introspector.AlikeAt later.introspector method where
  modifiers := by
    change ExceptT.mk (pure (later.modifiers method)) = ExceptT.mk (pure (set.modifiers method))
    rw [modifiers, modifiers, h.methodFor_eq howner]
  name := by
    change answered utf8 (later.name method) = answered utf8 (set.name method)
    rw [name, name, h.methodFor_eq howner]
  locals := by
    change answered _ (later.locals method) = answered _ (set.locals method)
    rw [locals, locals, h.methodFor_eq howner]
  lines := by
    change answered _ (later.lines method) = answered _ (set.lines method)
    rw [lines, lines, h.methodFor_eq howner]

end Grows

/-- The methods of a class are known by its number. -/
theorem owner_of_mem_methods {owner : Nat} {methods : List MethodRef}
    (h : set.methods owner = .ok methods) : ∀ method ∈ methods, method.owner = owner := by
  rw [ClassSet.methods] at h
  cases hfile : set.classFor .methods owner with
  | error e =>
    rw [hfile] at h
    cases h
  | ok file =>
    rw [hfile] at h
    cases h
    intro method hmethod
    obtain ⟨index, -, rfl⟩ := List.mem_map.mp hmethod
    rfl

namespace Grows

variable (h : set.Grows later) {owner : Nat} (howner : owner < set.size)

include h howner

/-- The entry method of a class stays the same. -/
theorem select_kept (entry : String) :
    later.introspector.select entry owner = set.introspector.select entry owner := by
  have hreport : later.introspector.report = set.introspector.report := rfl
  refine Introspector.select_congr hreport ?_ ?_ entry
  · change answered id (later.methods owner) = answered id (set.methods owner)
    rw [methods, methods, h.classFor_eq howner]
  · intro held hheld method hmethod
    change (set.methods owner).map Held.owned = .ok held at hheld
    cases hmethods : set.methods owner with
    | error e =>
      rw [hmethods] at hheld
      cases hheld
    | ok methods =>
      rw [hmethods] at hheld
      cases hheld
      have hsame := owner_of_mem_methods hmethods method hmethod
      exact h.alikeAt (hsame ▸ howner)

/-- The location of a class stays the same. -/
theorem resolve_kept (entry : String) :
    later.introspector.resolve entry owner = set.introspector.resolve entry owner := by
  have hreport : later.introspector.report = set.introspector.report := rfl
  refine Introspector.resolve_congr hreport (h.select_kept howner entry) ?_
  change answered utf8 (later.sourceFile owner) = answered utf8 (set.sourceFile owner)
  rw [sourceFile, sourceFile, h.classFor_eq howner]

end Grows

/-! ### Names and numbers that are not there -/

/-- The numbers of the classes of a name, which may be internal or binary. -/
def named (set : ClassSet) (name : String) : Set Nat :=
  {owner | ∃ file, set.get? owner = some file ∧ file.thisClass = substitute '.' '/' name}

/-- The first class of a name is found. -/
theorem find?_eq_some_iff {name : String} {owner : Nat} :
    set.find? name = some owner ↔ IsLeast (set.named name) owner := by
  rw [find?, Array.findIdx?_eq_some_iff_getElem]
  constructor
  · rintro ⟨howner, hname, hfirst⟩
    refine ⟨⟨set.classes[owner], Array.getElem?_eq_getElem howner, of_decide_eq_true hname⟩, ?_⟩
    rintro other ⟨file, hfile, hother⟩
    obtain ⟨hbound, rfl⟩ := Array.getElem?_eq_some_iff.mp hfile
    exact Nat.le_of_not_lt fun hlt => hfirst other hlt (decide_eq_true hother)
  · rintro ⟨⟨file, hfile, hname⟩, hleast⟩
    obtain ⟨howner, rfl⟩ := Array.getElem?_eq_some_iff.mp hfile
    refine ⟨howner, decide_eq_true hname, fun earlier hearlier hsame => ?_⟩
    have hbound : earlier < set.classes.size := hearlier.trans howner
    have hmem : earlier ∈ set.named name :=
      ⟨set.classes[earlier], Array.getElem?_eq_getElem hbound, of_decide_eq_true hsame⟩
    exact Nat.not_le_of_lt hearlier (hleast hmem)

/-- Nothing is found only if no class has the name. -/
theorem find?_eq_none_iff {name : String} :
    set.find? name = none ↔ ∀ owner, owner ∉ set.named name := by
  constructor
  · rintro hnone owner ⟨file, hfile, hname⟩
    rw [find?, Array.findIdx?_eq_none_iff] at hnone
    exact of_decide_eq_false (hnone file (Array.mem_of_getElem? hfile)) hname
  · intro hempty
    cases hfound : set.find? name with
    | none => rfl
    | some owner => exact absurd (find?_eq_some_iff.mp hfound).1 (hempty owner)

/-- There is no class behind the last one. -/
theorem run_methods_of_size_le {owner : Nat} (h : set.size ≤ owner) :
    (set.introspector.methods owner).run.run = .error (.invalidHandle .methods) := by
  have hnone : set.get? owner = none := Array.getElem?_eq_none h
  change (set.methods owner).map _ = _
  rw [methods, classFor, hnone]
  rfl

/-- So nothing is selected or located there. -/
theorem run_select_of_size_le {owner : Nat} (h : set.size ≤ owner) (entry : String) :
    (set.introspector.select entry owner).run.run = .error (.invalidHandle .methods) := by
  have hmethods := run_methods_of_size_le h
  change (set.introspector.methods owner).run = Except.error _ at hmethods
  rw [Introspector.select, Held.run_use, hmethods]
  rfl

theorem run_resolve_of_size_le {owner : Nat} (h : set.size ≤ owner) (entry : String) :
    (set.introspector.resolve entry owner).run.run =
      .error (.introspection (.invalidHandle .methods)) := by
  have hselect := run_select_of_size_le h entry
  change (set.introspector.select entry owner).run = Except.error _ at hselect
  have hadapt : ((set.introspector.select entry owner).adapt ResolveError.introspection).run =
      Except.mapError ResolveError.introspection <$> (set.introspector.select entry owner).run :=
    rfl
  rw [Introspector.resolve, ExceptT.run_bind, hadapt, hselect]
  rfl

/-! ### A persistent store -/

/-- Everything about a class set that gave these answers since it was empty, whatever is offered to
it from now on. -/
structure PersistentStore (answers : List (Except ParseError Nat)) (set : ClassSet) : Prop where
  /-- The numbers that were given out are 0, 1, 2 and so on, one for each class. -/
  numbers : answers.filterMap Except.toOption = List.range set.size
  /-- What is no class file is refused, and leaves the set as it is. -/
  refused : ∀ offer e, offer.file = .error e → set.take offer = (.error e, set)
  /-- A class is taken under the next number, and stands there ever after. -/
  taken : ∀ offer file, offer.file = .ok file →
    (set.take offer).1 = .ok set.size ∧ (set.take offer).2.size = set.size + 1 ∧
      ∀ more, ((set.take offer).2.takeAll more).2.get? set.size = some file
  /-- The first class of a name is found. -/
  found : ∀ name owner, set.find? name = some owner ↔ IsLeast (set.named name) owner
  /-- Nothing is found only if no class has the name. -/
  missed : ∀ name, set.find? name = none ↔ ∀ owner, owner ∉ set.named name
  /-- What is found once is found forever. -/
  settled : ∀ more name owner, set.find? name = some owner →
    (set.takeAll more).2.find? name = some owner
  /-- A class that is there stays as it is, and all that is said of it. -/
  kept : ∀ more owner, owner < set.size →
    (set.takeAll more).2.get? owner = set.get? owner ∧ ∀ entry,
      (set.takeAll more).2.introspector.select entry owner = set.introspector.select entry owner ∧
      (set.takeAll more).2.introspector.resolve entry owner = set.introspector.resolve entry owner
  /-- Nothing is said of a class that is not there. -/
  unknown : ∀ owner, set.size ≤ owner →
    (set.introspector.methods owner).run.run = .error (.invalidHandle .methods) ∧ ∀ entry,
      (set.introspector.select entry owner).run.run = .error (.invalidHandle .methods) ∧
      (set.introspector.resolve entry owner).run.run =
        .error (.introspection (.invalidHandle .methods))

/-- A class that was taken stands under its number ever after. -/
theorem get?_of_taken {offer : Offer} {file : ClassFile} (h : offer.file = .ok file)
    (more : List Offer) : ((set.take offer).2.takeAll more).2.get? set.size = some file := by
  have hgrows := (set.take offer).2.grows_takeAll more
  rw [take_of_ok h] at hgrows ⊢
  have hsize : set.size < (ClassSet.mk (set.classes.push file)).size := by
    change set.classes.size < (set.classes.push file).size
    rw [Array.size_push]
    exact Nat.lt_succ_self _
  rw [hgrows.get?_eq hsize]
  exact Array.getElem?_push_size

/-- **A class set is a persistent store**, after any offers, taken and refused, and before any
others. -/
theorem is_persistent (offers : List Offer) :
    PersistentStore (({} : ClassSet).takeAll offers).1 (({} : ClassSet).takeAll offers).2 := by
  obtain ⟨count, hnumbers, hsize⟩ := numbered_takeAll {} offers
  have hcount : count = (({} : ClassSet).takeAll offers).2.size := by
    rw [hsize]
    exact (Nat.zero_add count).symm
  generalize ({} : ClassSet).takeAll offers = state at hnumbers hcount
  obtain ⟨answers, set⟩ := state
  constructor
  case numbers => rw [hnumbers, hcount, List.range_eq_range']; rfl
  case refused => exact fun offer e => take_of_error
  case taken =>
    intro offer file hfile
    refine ⟨by rw [take_of_ok hfile], ?_, get?_of_taken hfile⟩
    rw [take_of_ok hfile]
    exact Array.size_push ..
  case found => exact fun name owner => find?_eq_some_iff
  case missed => exact fun name => find?_eq_none_iff
  case settled => exact fun more name owner => (set.grows_takeAll more).find?_eq
  case kept =>
    intro more owner howner
    have hgrows := set.grows_takeAll more
    exact ⟨hgrows.get?_eq howner, fun entry =>
      ⟨hgrows.select_kept howner entry, hgrows.resolve_kept howner entry⟩⟩
  case unknown =>
    intro owner howner
    exact ⟨run_methods_of_size_le howner, fun entry =>
      ⟨run_select_of_size_le howner entry, run_resolve_of_size_le howner entry⟩⟩

end ClassSet
end ClosureSpan
