import ClosureSpan.ClassSet
import ClosureSpan.Proofs.Scan.FirstMatch
import ClosureSpan.Proofs.Text.Codec

/-!
# What a class set answers

A class set has nothing to be given back and no state, so asking it is looking into a class file.
Each question about a method that stands in one of its classes is answered from that method, and a
class is located by the source file that its class file names.

## Main definitions

* `ClassSet.Stands set method info` — a method that is asked about, and what stands in its place.
* `ClassSet.concluded` — what comes of a scan, by the spans it finds.

## Main results

* `ClassSet.stands_methods` — the methods that are told are those of the class file, in order.
* `ClassSet.run_resolve` — a location names the source file as the class does.
-/

namespace ClosureSpan

/-- Where nothing has to be given back, a use is its body at the value that is held. -/
theorem Held.run_use_of_ok {ε α β : Type} {acquire : ExceptT ε Id (Held Id α)}
    {body : α → ExceptT ε Id β} {held : Held Id α} (h : acquire.run.run = .ok held) :
    (use acquire body).run.run = (body held.value).run.run := by
  change acquire.run = Except.ok held at h
  rw [run_use, h]
  rfl

theorem Held.run_use_of_error {ε α β : Type} {acquire : ExceptT ε Id (Held Id α)}
    {body : α → ExceptT ε Id β} {fault : ε} (h : acquire.run.run = .error fault) :
    (use acquire body).run.run = .error fault := by
  change acquire.run = Except.error fault at h
  rw [run_use, h]
  rfl

namespace ClassSet

variable {set : ClassSet} {owner : Nat} {file : ClassFile}

/-! ### Methods that stand in a class -/

/-- What is asked about the method is answered from this one. -/
def Stands (set : ClassSet) (method : MethodRef) (info : MethodInfo) : Prop :=
  ∀ query, set.methodFor query method = .ok info

theorem classFor_of_get? (h : set.get? owner = some file) (query : Query) :
    set.classFor query owner = .ok file := by
  rw [classFor, h]

/-- At each position of a class stands the method with that position. -/
theorem stands_of_getElem? (h : set.get? owner = some file) {index : Nat} {info : MethodInfo}
    (hinfo : file.methods[index]? = some info) : set.Stands ⟨owner, index⟩ info := by
  intro query
  rw [methodFor, classFor_of_get? h]
  simp only [bind, Except.bind, hinfo]

/-- The methods of a class are told in the order in which they stand there. -/
theorem run_methods (h : set.get? owner = some file) :
    (set.introspector.methods owner).run.run =
      .ok (Held.owned ((List.range file.methods.size).map fun index => ⟨owner, index⟩)) := by
  change (set.methods owner).map Held.owned = _
  rw [methods, classFor_of_get? h]
  rfl

/-- All handles that are told are good. -/
theorem stands_methods (h : set.get? owner = some file) :
    List.Forall₂ set.Stands ((List.range file.methods.size).map fun index => ⟨owner, index⟩)
      file.methods.toList := by
  refine List.forall₂_iff_get.mpr ⟨by simp, ?_⟩
  intro index hindex hbound
  have hinfo : file.methods[index]? = some (file.methods.toList.get ⟨index, hbound⟩) := by
    simp
  simpa using stands_of_getElem? h hinfo

section answers

variable {method : MethodRef} {info : MethodInfo} (h : set.Stands method info)

include h

theorem run_modifiers :
    (set.introspector.modifiers method).run.run = .ok (info.accessFlags : Int) := by
  change set.modifiers method = _
  rw [modifiers, h]
  rfl

theorem run_locals : (set.introspector.locals method).run.run =
    (present .locals info.locals).map fun rows => Held.owned (rows.map VariableRow.scope) := by
  change (set.locals method).map _ = _
  rw [locals, h]
  rfl

theorem run_lines : (set.introspector.lines method).run.run =
    (present .lines info.lines).map Held.owned := by
  change (set.lines method).map _ = _
  rw [lines, h]
  rfl

end answers

/-! ### The source file of a location -/

/-- What comes of a scan of a class that finds this span: the class is asked for its source file
only then, and the location has the source file as the class names it. -/
def concluded (set : ClassSet) (entry : String) (owner : Nat) :
    Except QueryError (Option LineSpan) → Except ResolveError Location
  | .error e => .error (.introspection e)
  | .ok none => .error (.noResolvableMethod entry)
  | .ok (some span) =>
    match set.sourceFile owner with
    | .ok name => .ok ⟨name, span.first, span.last⟩
    | .error e => .error (.introspection e)

/-- The source file is handed out in standard UTF-8, and reading that gives the source file. -/
theorem run_conclude (set : ClassSet) (entry : String) (owner : Nat)
    (choice : Option (Selection MethodRef)) :
    (set.introspector.conclude entry owner choice).run.run =
      set.concluded entry owner (.ok (choice.map Selection.span)) := by
  cases choice with
  | none => rfl
  | some selection =>
    have hfile : ((set.introspector.sourceFile owner).adapt ResolveError.introspection).run.run =
        ((set.sourceFile owner).map fun name => Held.owned (utf8 name)).mapError
          ResolveError.introspection := rfl
    rw [Introspector.conclude, Option.map_some, concluded]
    cases hname : set.sourceFile owner with
    | error e =>
      rw [hname] at hfile
      rw [Held.run_use_of_error hfile]
    | ok name =>
      rw [hname] at hfile
      rw [Held.run_use_of_ok hfile]
      change Except.ok (Location.mk (ModifiedUtf8.decode (utf8 name)) _ _) = _
      rw [ModifiedUtf8.decode_utf8]

/-- **A class set locates a class by its own name of the source file.** -/
theorem run_resolve (set : ClassSet) (entry : String) (owner : Nat) :
    (set.introspector.resolve entry owner).run.run = set.concluded entry owner
      ((set.introspector.select entry owner).run.run.map (Option.map Selection.span)) := by
  have hadapt : ((set.introspector.select entry owner).adapt ResolveError.introspection).run.run =
      (set.introspector.select entry owner).run.run.mapError ResolveError.introspection := rfl
  rw [Introspector.resolve_eq_conclude, ExceptT.run_bind, Id.run_bind, hadapt]
  cases (set.introspector.select entry owner).run.run with
  | error e => rfl
  | ok choice => exact set.run_conclude entry owner choice

end ClassSet
end ClosureSpan
