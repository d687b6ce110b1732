import ClosureSpan.Proofs.ClassSet.Answers
import ClosureSpan.Proofs.Scan.EntryName

/-!
# Locations and overloads

A class of a class set is located by the methods that have the entry name and are no bridges, taken
in order, and by its source file.  The first of these overloads that has both tables and a span
gives the location, unless one before it lacks a table.  All else in the class may change without a
change of the location: other methods may come, go and be rewritten, and the positions of all
methods with them.

## Main definitions

* `MethodInfo.IsOverload`, `ClassFile.overloads` — the methods that matter.
* `MethodInfo.verdict` — what an overload makes of the search, if it ends it.
* `ClassFile.located` — the location of a class, from its overloads and its source file.
* `EditedOutside entry` — changes to the other methods of a class.

## Main results

* `ClassSet.run_scan` — a scan takes the first verdict of an overload.
* `EditedOutside.overloads_eq` — changes to other methods leave the overloads as they are.
* `located_by_overloads` — **a class is located by its overloads.**
-/

namespace ClosureSpan

/-! ### Overloads -/

/-- The bridge bit is bit six. -/
theorem isBridge_natCast (bits : Nat) : isBridge bits = bits.testBit 6 := by
  have hbit : bits.testBit 6 = decide (bits / 0x40 % 2 = 1) :=
    Nat.testBit_eq_decide_div_mod_eq
  have hcast : (bits : Int) / 0x40 % 2 = 1 ↔ bits / 0x40 % 2 = 1 := by omega
  rw [hbit, isBridge, decide_eq_decide.mpr hcast]

namespace MethodInfo

/-- The method has the entry name and is no bridge. -/
def IsOverload (entry : String) (info : MethodInfo) : Prop :=
  info.accessFlags.testBit 6 = false ∧ info.name = entry

instance (entry : String) (info : MethodInfo) : Decidable (info.IsOverload entry) :=
  inferInstanceAs (Decidable (_ ∧ _))

/-- How the method ends the search for a span: with an error, if it lacks a table, and with its
span, if its tables have one.  The variable table is missed first. -/
def verdict (info : MethodInfo) : Option (Except QueryError LineSpan) :=
  match info.locals, info.lines with
  | none, _ => some (.error (.absent .locals))
  | some _, none => some (.error (.absent .lines))
  | some rows, some lines =>
    (analyze lines (inlineRanges (rows.map VariableRow.scope))).map Except.ok

theorem verdict_eq_error {info : MethodInfo} {e : QueryError}
    (h : info.verdict = some (.error e)) : e = .absent .locals ∨ e = .absent .lines := by
  unfold verdict at h
  split at h
  next => cases h; exact .inl rfl
  next => cases h; exact .inr rfl
  next => simp at h

end MethodInfo

namespace ClassFile

/-- The overloads of the entry name, in the order of the class. -/
def overloads (file : ClassFile) (entry : String) : List MethodInfo :=
  file.methods.toList.filter fun info => info.IsOverload entry

/-- The location of a class: the first verdict of an overload decides. -/
def located (file : ClassFile) (entry : String) : Except ResolveError Location :=
  match (file.overloads entry).findSome? MethodInfo.verdict, file.sourceFile with
  | none, _ => .error (.noResolvableMethod entry)
  | some (.error e), _ => .error (.introspection e)
  | some (.ok _), none => .error (.introspection (.absent .sourceFile))
  | some (.ok span), some name => .ok ⟨name, span.first, span.last⟩

/-- Only missing information makes a question fail. -/
theorem located_eq_introspection {file : ClassFile} {entry : String} {e : QueryError}
    (h : file.located entry = .error (.introspection e)) :
    e = .absent .locals ∨ e = .absent .lines ∨ e = .absent .sourceFile := by
  unfold located at h
  cases hfirst : (file.overloads entry).findSome? MethodInfo.verdict with
  | none => rw [hfirst] at h; cases h
  | some verdict =>
    obtain ⟨info, -, hverdict⟩ := List.exists_of_findSome?_eq_some hfirst
    rw [hfirst] at h
    cases verdict with
    | error cause =>
      obtain rfl : cause = e := by simpa using h
      rcases MethodInfo.verdict_eq_error hverdict with rfl | rfl
      · exact .inl rfl
      · exact .inr (.inl rfl)
    | ok span =>
      cases hfile : file.sourceFile with
      | none => rw [hfile] at h; cases h; exact .inr (.inr rfl)
      | some name => rw [hfile] at h; cases h

end ClassFile

/-! ### A scan of a class set -/

/-- What a scan finds if this is the first verdict. -/
def settled : Option (Except QueryError LineSpan) → Except QueryError (Option LineSpan)
  | none => .ok none
  | some verdict => verdict.map some

namespace ClassSet

variable {set : ClassSet} {method : MethodRef} {info : MethodInfo}

/-- The tables of a method are read to its verdict. -/
theorem run_measure (h : set.Stands method info) (entry : String) :
    ((set.introspector.measure entry method).run.run).map (Option.map Selection.span) =
      settled info.verdict := by
  have hlocals := run_locals h
  have hlines := run_lines h
  unfold Introspector.measure MethodInfo.verdict
  cases hrows : info.locals with
  | none =>
    rw [hrows] at hlocals
    rw [Held.run_use_of_error hlocals]
    rfl
  | some rows =>
    rw [hrows] at hlocals
    rw [Held.run_use_of_ok hlocals]
    cases htable : info.lines with
    | none =>
      rw [htable] at hlines
      rw [Held.run_use_of_error hlines]
      rfl
    | some lines =>
      rw [htable] at hlines
      rw [Held.run_use_of_ok hlines]
      change Except.ok ((Option.map _ (analyze lines _)).map Selection.span) = _
      dsimp only [Held.owned]
      cases analyze lines (inlineRanges (rows.map VariableRow.scope)) <;> rfl

/-- Of a method that is no overload the tables are not read. -/
theorem run_candidate (h : set.Stands method info) (entry : String) :
    ((set.introspector.candidate entry method).run.run).map (Option.map Selection.span) =
      settled (if info.IsOverload entry then info.verdict else none) := by
  have hmodifiers : (set.introspector.modifiers method).run = Except.ok (info.accessFlags : Int) :=
    run_modifiers h
  have hnamed : (set.introspector.hasName entry method).run =
      Except.ok (decide (info.name = entry)) := run_hasName (h .name) entry
  unfold Introspector.candidate
  rw [ExceptT.run_bind, hmodifiers]
  change (ExceptT.run (if isBridge (info.accessFlags : Int) = true then pure none else
    set.introspector.hasName entry method >>= fun named =>
      if named = true then set.introspector.measure entry method else pure none)).run.map _ = _
  rw [isBridge_natCast]
  by_cases hbridge : info.accessFlags.testBit 6 = true
  · have hother : ¬ info.IsOverload entry := fun hboth => by simp [hboth.1] at hbridge
    rw [if_pos hbridge, if_neg hother]
    rfl
  rw [if_neg hbridge, ExceptT.run_bind, hnamed]
  change (ExceptT.run (if decide (info.name = entry) = true then
    set.introspector.measure entry method else pure none)).run.map _ = _
  by_cases hname : info.name = entry
  · have hoverload : info.IsOverload entry := ⟨Bool.eq_false_iff.mpr hbridge, hname⟩
    rw [if_pos (decide_eq_true hname), if_pos hoverload]
    exact run_measure h entry
  · have hother : ¬ info.IsOverload entry := fun hboth => hname hboth.2
    rw [if_neg (by simpa using hname), if_neg hother]
    rfl

theorem findSome?_overloads_cons (entry : String) (info : MethodInfo) (infos : List MethodInfo) :
    ((info :: infos).filter fun info => info.IsOverload entry).findSome? MethodInfo.verdict =
      (if info.IsOverload entry then info.verdict else none).or
        ((infos.filter fun info => info.IsOverload entry).findSome? MethodInfo.verdict) := by
  by_cases hinfo : info.IsOverload entry
  · rw [if_pos hinfo, List.filter_cons, if_pos (decide_eq_true hinfo), List.findSome?_cons]
    cases info.verdict <;> rfl
  · rw [if_neg hinfo, List.filter_cons, if_neg (by simpa using hinfo), Option.none_or]

/-- **A scan takes the first verdict of an overload.** -/
theorem run_scan {methods : List MethodRef} {infos : List MethodInfo}
    (h : List.Forall₂ set.Stands methods infos) (entry : String) :
    ((set.introspector.scan entry methods).run.run).map (Option.map Selection.span) =
      settled ((infos.filter fun info => info.IsOverload entry).findSome? MethodInfo.verdict) := by
  induction h with
  | nil => rfl
  | @cons method info methods infos hmethod hmethods ih =>
    have hcandidate := run_candidate hmethod entry
    rw [Introspector.scan_cons, ExceptT.run_bind, Id.run_bind, findSome?_overloads_cons]
    generalize (set.introspector.candidate entry method).run.run = outcome at hcandidate
    generalize (if info.IsOverload entry then info.verdict else none) = first at hcandidate
    cases first with
    -- no verdict: the candidate selected nothing, and the scan goes on
    | none =>
      rcases outcome with e | _ | selection
      · cases hcandidate
      · exact ih
      · cases hcandidate
    | some verdict =>
      rcases outcome with e | _ | selection
      · exact hcandidate
      · cases verdict <;> cases hcandidate
      · exact hcandidate

/-- The span of a class is read off its overloads. -/
theorem run_select_of_get? {owner : Nat} {file : ClassFile} (h : set.get? owner = some file)
    (entry : String) :
    (set.introspector.select entry owner).run.run.map (Option.map Selection.span) =
      settled ((file.overloads entry).findSome? MethodInfo.verdict) := by
  rw [Introspector.select, Held.run_use_of_ok (run_methods h)]
  exact run_scan (stands_methods h) entry

/-- The location of a class is read off its overloads and its source file. -/
theorem run_resolve_of_get? {owner : Nat} {file : ClassFile} (h : set.get? owner = some file)
    (entry : String) : (set.introspector.resolve entry owner).run.run = file.located entry := by
  have hname : set.sourceFile owner = present .sourceFile file.sourceFile := by
    rw [sourceFile, classFor_of_get? h]
    rfl
  rw [run_resolve, run_select_of_get? h entry, ClassFile.located]
  rcases List.findSome? MethodInfo.verdict _ with _ | e | span
  · rfl
  · rfl
  · rw [settled, Except.map, concluded, hname]
    cases file.sourceFile <;> rfl

end ClassSet

/-! ### Changes to other methods -/

/-- The second list of methods comes from the first by changes to methods that are no overloads of
the entry name, and stay none. -/
inductive EditedOutside (entry : String) : List MethodInfo → List MethodInfo → Prop
  /-- Nothing is left to change. -/
  | nil : EditedOutside entry [] []
  /-- Any method may stay, overload or not. -/
  | keep {before after : List MethodInfo} (info : MethodInfo)
    (h : EditedOutside entry before after) : EditedOutside entry (info :: before) (info :: after)
  /-- A method is inserted. -/
  | insert {before after : List MethodInfo} {info : MethodInfo} (hinfo : ¬ info.IsOverload entry)
    (h : EditedOutside entry before after) : EditedOutside entry before (info :: after)
  /-- A method is deleted. -/
  | delete {before after : List MethodInfo} {info : MethodInfo} (hinfo : ¬ info.IsOverload entry)
    (h : EditedOutside entry before after) : EditedOutside entry (info :: before) after
  /-- A method is altered: its flags, its name, its tables, or all of them. -/
  | alter {before after : List MethodInfo} {old new : MethodInfo} (hold : ¬ old.IsOverload entry)
    (hnew : ¬ new.IsOverload entry) (h : EditedOutside entry before after) :
    EditedOutside entry (old :: before) (new :: after)

/-- Changes to other methods leave the overloads as they are, and in their order. -/
theorem EditedOutside.overloads_eq {entry : String} {before after : List MethodInfo}
    (h : EditedOutside entry before after) :
    after.filter (fun info => info.IsOverload entry) =
      before.filter (fun info => info.IsOverload entry) := by
  induction h with
  | nil => rfl
  | keep info h ih => rw [List.filter_cons, List.filter_cons, ih]
  | insert hinfo h ih => rw [List.filter_cons, if_neg (by simpa using hinfo), ih]
  | delete hinfo h ih => rw [List.filter_cons, if_neg (by simpa using hinfo), ih]
  | alter hold hnew h ih =>
    rw [List.filter_cons, List.filter_cons, if_neg (by simpa using hnew),
      if_neg (by simpa using hold), ih]

/-- **A class is located by its overloads.**  The first overload that lacks a table or has a span
decides: a missing table is reported as such, and the span is located in the source file, if the
class has one.  Nothing else goes wrong with a class that is there.  Whatever is done to the other
methods, in another set and under another number, the class is located as before. -/
theorem located_by_overloads {set : ClassSet} {owner : Nat} {file : ClassFile}
    (hfile : set.get? owner = some file) (entry : String) :
    (set.introspector.resolve entry owner).run.run = file.located entry ∧
    (∀ e, (set.introspector.resolve entry owner).run.run = .error (.introspection e) →
      e = .absent .locals ∨ e = .absent .lines ∨ e = .absent .sourceFile) ∧
    ∀ {later : ClassSet} {place : Nat} {edited : ClassFile}, later.get? place = some edited →
      EditedOutside entry file.methods.toList edited.methods.toList →
      edited.sourceFile = file.sourceFile →
      (later.introspector.resolve entry place).run.run =
        (set.introspector.resolve entry owner).run.run := by
  have hlocated := ClassSet.run_resolve_of_get? hfile entry
  refine ⟨hlocated, ?_, ?_⟩
  · intro e he
    rw [hlocated] at he
    exact ClassFile.located_eq_introspection he
  · intro later place edited hedited hmethods hsource
    have hoverloads : edited.overloads entry = file.overloads entry := hmethods.overloads_eq
    rw [hlocated, ClassSet.run_resolve_of_get? hedited entry]
    unfold ClassFile.located
    rw [hoverloads, hsource]

/-! ### A class and a changed copy of it -/

/-- An overload without a line of its own: what it has was inlined. -/
def inlinedOverload : MethodInfo :=
  ⟨0x01, "invoke", "()V", some [⟨0, 40⟩], some [⟨"$i$f$run", "I", 0, 8, 1⟩]⟩

/-- An overload with the lines three to five. -/
def wantedOverload : MethodInfo :=
  ⟨0x11, "invoke", "(I)V", some [⟨0, 3⟩, ⟨4, 40⟩, ⟨8, 5⟩], some [⟨"$i$f$run", "I", 4, 4, 1⟩]⟩

/-- A class with a bridge and another method before its overloads, neither with any table. -/
def lambdaClass : ClassFile :=
  ⟨0, 52, 0x31, "Main$f$1",
    #[⟨0x1041, "invoke", "()Ljava/lang/Object;", none, none⟩, ⟨0x01, "equals", "()Z", none, none⟩,
      inlinedOverload, wantedOverload], some "Main.kt"⟩

/-- The same overloads among other methods: the bridge is gone, the other method was rewritten, and
two new ones stand between and behind the overloads. -/
def editedClass : ClassFile :=
  ⟨3, 61, 0x11, "Main$g$1",
    #[⟨0x01, "hashCode", "()I", some [⟨0, 1⟩], none⟩, inlinedOverload,
      ⟨0x08, "invoke$default", "()V", none, none⟩, wantedOverload,
      ⟨0x41, "invoke", "()V", none, none⟩], some "Main.kt"⟩

theorem located_by_overloads_edited :
    (ClassSet.mk #[lambdaClass]).get? 0 = some lambdaClass ∧
    EditedOutside "invoke" lambdaClass.methods.toList editedClass.methods.toList ∧
    ((ClassSet.mk #[lambdaClass, editedClass]).introspector.resolve "invoke" 1).run.run =
      .ok ⟨"Main.kt", 3, 5⟩ := by
  have hclass : (ClassSet.mk #[lambdaClass]).get? 0 = some lambdaClass := rfl
  have hedited : (ClassSet.mk #[lambdaClass, editedClass]).get? 1 = some editedClass := rfl
  have hmethods :
      EditedOutside "invoke" lambdaClass.methods.toList editedClass.methods.toList := by
    refine .delete (by decide) (.alter (by decide) (by decide) (.keep _ ?_))
    exact .insert (by decide) (.keep _ (.insert (by decide) .nil))
  have hlocated : lambdaClass.located "invoke" = .ok ⟨"Main.kt", 3, 5⟩ := by decide +kernel
  obtain ⟨hresolve, -, hsame⟩ := located_by_overloads hclass "invoke"
  refine ⟨hclass, hmethods, ?_⟩
  rw [hsame hedited hmethods rfl, hresolve, hlocated]

end ClosureSpan
