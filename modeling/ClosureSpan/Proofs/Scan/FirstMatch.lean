import Mathlib.Data.List.Forall2
import ClosureSpan.Proofs.Scan.Transcript

/-!
# The first match

A scan asks for the methods of a class once and visits them in order.  A visit goes on only as long
as the method may still be the entry method, and the scan goes on only as long as no method is.  So
what is said during a scan has one of four shapes, and each shape belongs to one outcome.

## Main definitions

* `PassedOver`, `Chosen`, `BrokenOff` — the three ways in which a visit ends.
* `Scanned` — what is said during a scan, by its outcome.
* `Located` — what is said until a class is located, by what its scan said.

## Main results

* `Introspector.says_scan` — the methods are visited until one is chosen or a question fails.
* `Introspector.first_match` — **what is said and what comes out of it, for any source.**
-/

namespace ClosureSpan

variable {κ μ σ : Type}

/-! ### Visits -/

/-- A visit that passes over the method: it is a bridge, or has another name, or has no line outside
inlined code. -/
inductive PassedOver (entry : String) (method : μ) : List (Exchange κ μ) → Prop
  /-- Of a bridge nothing more is asked. -/
  | bridge {bits : Int} (hbits : isBridge bits = true) :
    PassedOver entry method [.modifiers method (.ok bits)]
  /-- Of a method with another name the tables are not asked for. -/
  | otherName {bits : Int} {name : Bytes} (hbits : isBridge bits = false)
    (hname : name ≠ utf8 entry) :
    PassedOver entry method [.modifiers method (.ok bits), .name method (.ok name)]
  /-- The tables of the method yield no span. -/
  | noSpan {bits : Int} {scopes : List Scope} {rows : List LineRow} (hbits : isBridge bits = false)
    (hspan : analyze rows (inlineRanges scopes) = none) :
    PassedOver entry method [.modifiers method (.ok bits), .name method (.ok (utf8 entry)),
      .locals method (.ok scopes), .lines method (.ok rows)]

/-- A visit that ends with this selection: its method is no bridge, has the entry name, and its
tables yield the span and the ranges. -/
inductive Chosen (entry : String) : Selection μ → List (Exchange κ μ) → Prop
  /-- The variable table is asked for before the line table. -/
  | mk {method : μ} {bits : Int} {scopes : List Scope} {rows : List LineRow} {span : LineSpan}
    (hbits : isBridge bits = false) (hspan : analyze rows (inlineRanges scopes) = some span) :
    Chosen entry ⟨method, span, inlineRanges scopes⟩
      [.modifiers method (.ok bits), .name method (.ok (utf8 entry)), .locals method (.ok scopes),
        .lines method (.ok rows)]

/-- A visit that ends with a question that fails with this error. -/
inductive BrokenOff (entry : String) (method : μ) (e : QueryError) : List (Exchange κ μ) → Prop
  /-- The modifiers are not told. -/
  | modifiers : BrokenOff entry method e [.modifiers method (.error e)]
  /-- The name is not told. -/
  | name {bits : Int} (hbits : isBridge bits = false) :
    BrokenOff entry method e [.modifiers method (.ok bits), .name method (.error e)]
  /-- The variable table is not told. -/
  | locals {bits : Int} (hbits : isBridge bits = false) :
    BrokenOff entry method e [.modifiers method (.ok bits), .name method (.ok (utf8 entry)),
      .locals method (.error e)]
  /-- The line table is not told. -/
  | lines {bits : Int} {scopes : List Scope} (hbits : isBridge bits = false) :
    BrokenOff entry method e [.modifiers method (.ok bits), .name method (.ok (utf8 entry)),
      .locals method (.ok scopes), .lines method (.error e)]

/-- A visit, by its outcome. -/
def Visited (entry : String) (method : μ) :
    Except QueryError (Option (Selection μ)) → List (Exchange κ μ) → Prop
  | .error e, said => BrokenOff entry method e said
  | .ok none, said => PassedOver entry method said
  | .ok (some selection), said => selection.method = method ∧ Chosen entry selection said

/-! ### Scans -/

/-- What is said of these methods during a scan, by its outcome. -/
inductive Followed (entry : String) :
    List μ → Except QueryError (Option (Selection μ)) → List (Exchange κ μ) → Prop
  /-- A question fails, after all methods before were passed over.  Nothing is asked after it. -/
  | brokenOff {before after : List μ} {method : μ} {e : QueryError}
    {visits : List (List (Exchange κ μ))} {last : List (Exchange κ μ)}
    (hbefore : List.Forall₂ (PassedOver entry) before visits)
    (hlast : BrokenOff entry method e last) :
    Followed entry (before ++ method :: after) (.error e) (visits.flatten ++ last)
  /-- A method is chosen, after all methods before were passed over.  Of the methods after it
  nothing is asked. -/
  | chosen {before after : List μ} {selection : Selection μ}
    {visits : List (List (Exchange κ μ))} {last : List (Exchange κ μ)}
    (hbefore : List.Forall₂ (PassedOver entry) before visits)
    (hlast : Chosen entry selection last) :
    Followed entry (before ++ selection.method :: after) (.ok (some selection))
      (visits.flatten ++ last)
  /-- All methods are passed over. -/
  | exhausted {methods : List μ} {visits : List (List (Exchange κ μ))}
    (hmethods : List.Forall₂ (PassedOver entry) methods visits) :
    Followed entry methods (.ok none) visits.flatten

/-- What is said during a scan, by its outcome. -/
inductive Scanned (entry : String) (owner : κ) :
    Except QueryError (Option (Selection μ)) → List (Exchange κ μ) → Prop
  /-- The methods of the class are not told. -/
  | refused (e : QueryError) : Scanned entry owner (.error e) [.methods owner (.error e)]
  /-- The methods are told once, and then asked about. -/
  | answered {methods : List μ} {outcome : Except QueryError (Option (Selection μ))}
    {said : List (Exchange κ μ)} (h : Followed entry methods outcome said) :
    Scanned entry owner outcome (.methods owner (.ok methods) :: said)

theorem Followed.head_brokenOff {entry : String} {method : μ} {methods : List μ} {e : QueryError}
    {last : List (Exchange κ μ)} (h : BrokenOff entry method e last) :
    Followed entry (method :: methods) (.error e) last := by
  have hnone : List.Forall₂ (PassedOver entry) ([] : List μ) ([] : List (List (Exchange κ μ))) :=
    .nil
  exact .brokenOff hnone h

theorem Followed.head_chosen {entry : String} {selection : Selection μ} {methods : List μ}
    {last : List (Exchange κ μ)} (h : Chosen entry selection last) :
    Followed entry (selection.method :: methods) (.ok (some selection)) last := by
  have hnone : List.Forall₂ (PassedOver entry) ([] : List μ) ([] : List (List (Exchange κ μ))) :=
    .nil
  exact .chosen hnone h

theorem Followed.passed {entry : String} {method : μ} {methods : List μ}
    {outcome : Except QueryError (Option (Selection μ))} {visit said : List (Exchange κ μ)}
    (hvisit : PassedOver entry method visit) (h : Followed entry methods outcome said) :
    Followed entry (method :: methods) outcome (visit ++ said) := by
  cases h with
  | brokenOff hbefore hlast =>
    rw [← List.cons_append, ← List.append_assoc, ← List.flatten_cons]
    exact .brokenOff (.cons hvisit hbefore) hlast
  | chosen hbefore hlast =>
    rw [← List.cons_append, ← List.append_assoc, ← List.flatten_cons]
    exact .chosen (.cons hvisit hbefore) hlast
  | exhausted hmethods =>
    rw [← List.flatten_cons]
    exact .exhausted (.cons hvisit hmethods)

/-! ### What the scan says -/

namespace Introspector

variable (source : Introspector (StateM σ) κ μ) (entry : String)

theorem says_hasName (method : μ) :
    Says (source.overheard.hasName entry method) (source.hasName entry method)
      fun outcome said => match outcome with
        | .error e => said = [.name method (.error e)]
        | .ok named => ∃ name, said = [.name method (.ok name)] ∧
            named = decide (name = utf8 entry) := by
  refine Says.use_overhearHeld (fun e => rfl) ?_
  intro name
  exact Says.pure ⟨name, rfl, rfl⟩

theorem says_measure (method : μ) :
    Says (source.overheard.measure entry method) (source.measure entry method)
      fun outcome said => match outcome with
        | .error e => said = [.locals method (.error e)] ∨
          ∃ scopes, said = [.locals method (.ok scopes), .lines method (.error e)]
        | .ok selection => ∃ scopes rows,
          said = [.locals method (.ok scopes), .lines method (.ok rows)] ∧
            selection = (analyze rows (inlineRanges scopes)).map
              fun span => ⟨method, span, inlineRanges scopes⟩ := by
  refine Says.use_overhearHeld (fun e => .inl rfl) ?_
  intro scopes
  refine Says.use_overhearHeld (fun e => .inr ⟨scopes, rfl⟩) ?_
  intro rows
  exact Says.lift_bind (Says.pure ⟨scopes, rows, rfl, rfl⟩)

/-- A visit asks no more than is needed. -/
theorem says_candidate (method : μ) :
    Says (source.overheard.candidate entry method) (source.candidate entry method)
      (Visited entry method) := by
  refine (says_overhear _ id _).bind ?_ ?_
  · rintro e _ rfl
    exact .modifiers
  rintro bits _ rfl
  by_cases hbits : isBridge bits = true
  · rw [if_pos hbits, if_pos hbits]
    exact Says.pure (.bridge hbits)
  rw [if_neg hbits, if_neg hbits]
  have hbits : isBridge bits = false := Bool.not_eq_true _ ▸ hbits
  refine (source.says_hasName entry method).bind ?_ ?_
  · rintro e _ rfl
    exact .name hbits
  rintro named _ ⟨name, rfl, rfl⟩
  by_cases hname : name = utf8 entry
  · subst hname
    rw [if_pos (decide_eq_true rfl), if_pos (decide_eq_true rfl)]
    refine (source.says_measure entry method).mono ?_
    intro outcome said hsaid
    cases outcome with
    | error e =>
      rcases hsaid with rfl | ⟨scopes, rfl⟩
      · exact .locals hbits
      · exact .lines hbits
    | ok selection =>
      obtain ⟨scopes, rows, rfl, rfl⟩ := hsaid
      cases hspan : analyze rows (inlineRanges scopes) with
      | none => exact .noSpan hbits hspan
      | some span => exact ⟨rfl, .mk hbits hspan⟩
  · rw [if_neg (by simpa using hname), if_neg (by simpa using hname)]
    exact Says.pure (.otherName hbits hname)

/-- The methods are visited in order, until one is chosen or a question fails. -/
theorem says_scan (methods : List μ) :
    Says (source.overheard.scan entry methods) (source.scan entry methods)
      (Followed entry methods) := by
  induction methods with
  | nil => exact Says.pure (.exhausted .nil)
  | cons method methods ih =>
    rw [scan_cons, scan_cons]
    refine (source.says_candidate entry method).bind ?_ ?_
    · intro e visit hvisit
      exact .head_brokenOff hvisit
    intro selection visit hvisit
    cases selection with
    -- only a method that is passed over lets the scan go on
    | none => exact ih.mono fun outcome said hsaid => hsaid.passed hvisit
    | some selection =>
      obtain ⟨rfl, hchosen⟩ := hvisit
      refine Says.pure ?_
      rw [List.append_nil]
      exact .head_chosen hchosen

theorem says_select (owner : κ) :
    Says (source.overheard.select entry owner) (source.select entry owner)
      (Scanned entry owner) := by
  refine Says.use_overhearHeld (fun e => .refused e) ?_
  intro methods
  exact (source.says_scan entry methods).mono fun outcome said hsaid => .answered hsaid

end Introspector

/-! ### What the outcome is read off -/

/-- What is said ends with a question that fails with this error, and no question before it
fails. -/
def EndsWithFault (e : QueryError) (said : List (Exchange κ μ)) : Prop :=
  ∃ before last, said = before ++ [last] ∧ last.fault? = some e ∧
    ∀ exchange ∈ before, exchange.fault? = none

theorem PassedOver.fault?_eq_none {entry : String} {method : μ} {visit : List (Exchange κ μ)}
    (h : PassedOver entry method visit) : ∀ exchange ∈ visit, exchange.fault? = none := by
  intro exchange hmem
  cases h <;> simp only [List.mem_cons, List.not_mem_nil, or_false] at hmem
  case bridge => rw [hmem]; rfl
  case otherName => rcases hmem with rfl | rfl <;> rfl
  case noSpan => rcases hmem with rfl | rfl | rfl | rfl <;> rfl

theorem Chosen.fault?_eq_none {entry : String} {selection : Selection μ}
    {visit : List (Exchange κ μ)} (h : Chosen entry selection visit) :
    ∀ exchange ∈ visit, exchange.fault? = none := by
  intro exchange hmem
  cases h
  simp only [List.mem_cons, List.not_mem_nil, or_false] at hmem
  rcases hmem with rfl | rfl | rfl | rfl <;> rfl

theorem fault?_eq_none_of_passedOver {entry : String} {methods : List μ}
    {visits : List (List (Exchange κ μ))} (h : List.Forall₂ (PassedOver entry) methods visits) :
    ∀ exchange ∈ visits.flatten, exchange.fault? = none := by
  induction h with
  | nil => exact fun exchange hmem => absurd hmem List.not_mem_nil
  | cons hvisit _ ih =>
    intro exchange hmem
    rw [List.flatten_cons] at hmem
    rcases List.mem_append.mp hmem with hmem | hmem
    · exact hvisit.fault?_eq_none exchange hmem
    · exact ih exchange hmem

theorem BrokenOff.endsWithFault {entry : String} {method : μ} {e : QueryError}
    {visit : List (Exchange κ μ)} (h : BrokenOff entry method e visit) : EndsWithFault e visit := by
  cases h with
  | modifiers => exact ⟨[], _, rfl, rfl, by simp⟩
  | name => exact ⟨[_], _, rfl, rfl, by simp [Exchange.fault?, fault?]⟩
  | locals => exact ⟨[_, _], _, rfl, rfl, by simp [Exchange.fault?, fault?]⟩
  | lines => exact ⟨[_, _, _], _, rfl, rfl, by simp [Exchange.fault?, fault?]⟩

theorem EndsWithFault.append_left {e : QueryError} {said more : List (Exchange κ μ)}
    (hsaid : ∀ exchange ∈ said, exchange.fault? = none) (h : EndsWithFault e more) :
    EndsWithFault e (said ++ more) := by
  obtain ⟨before, last, rfl, hlast, hbefore⟩ := h
  refine ⟨said ++ before, last, (List.append_assoc ..).symm, hlast, ?_⟩
  intro exchange hmem
  rcases List.mem_append.mp hmem with hmem | hmem
  · exact hsaid exchange hmem
  · exact hbefore exchange hmem

/-- A scan fails with the error that is heard last. -/
theorem Scanned.endsWithFault {entry : String} {owner : κ} {e : QueryError}
    {said : List (Exchange κ μ)} (h : Scanned entry owner (.error e) said) :
    EndsWithFault e said := by
  cases h with
  | refused => exact ⟨[], _, rfl, rfl, by simp⟩
  | @answered methods _ _ h =>
    have hanswer : ∀ exchange ∈ [Exchange.methods (μ := μ) owner (.ok methods)],
        exchange.fault? = none := by simp [Exchange.fault?, fault?]
    refine EndsWithFault.append_left hanswer ?_
    cases h with
    | brokenOff hbefore hlast =>
      exact hlast.endsWithFault.append_left (fault?_eq_none_of_passedOver hbefore)

/-- In a scan that does not fail, no question does. -/
theorem Scanned.fault?_eq_none {entry : String} {owner : κ} {choice : Option (Selection μ)}
    {said : List (Exchange κ μ)} (h : Scanned entry owner (.ok choice) said) :
    ∀ exchange ∈ said, exchange.fault? = none := by
  intro exchange hmem
  cases h with
  | answered h =>
    rcases List.mem_cons.mp hmem with rfl | hmore
    · rfl
    cases h with
    | chosen hbefore hlast =>
      rcases List.mem_append.mp hmore with hvisits | hvisit
      · exact fault?_eq_none_of_passedOver hbefore exchange hvisits
      · exact hlast.fault?_eq_none exchange hvisit
    | exhausted hmethods => exact fault?_eq_none_of_passedOver hmethods exchange hmore

/-- The selection that the tables heard last yield, of what is said newest first. -/
def lastSelection : List (Exchange κ μ) → Option (Selection μ)
  | .lines method (.ok rows) :: .locals _ (.ok scopes) :: _ =>
    (analyze rows (inlineRanges scopes)).map fun span => ⟨method, span, inlineRanges scopes⟩
  | _ => none

theorem PassedOver.lastSelection_eq_none {entry : String} {method : μ}
    {visit : List (Exchange κ μ)} (h : PassedOver entry method visit)
    (before : List (Exchange κ μ)) : lastSelection (before ++ visit).reverse = none := by
  rw [List.reverse_append]
  cases h with
  | bridge => rfl
  | otherName => rfl
  | @noSpan _ scopes rows _ hspan =>
    change (analyze rows (inlineRanges scopes)).map _ = none
    rw [hspan]
    rfl

theorem lastSelection_eq_none_of_passedOver {entry : String} {methods : List μ}
    {visits : List (List (Exchange κ μ))} (h : List.Forall₂ (PassedOver entry) methods visits)
    (before : List (Exchange κ μ)) (hbefore : lastSelection before.reverse = none) :
    lastSelection (before ++ visits.flatten).reverse = none := by
  induction h generalizing before with
  | nil => rwa [List.flatten_nil, List.append_nil]
  | cons hvisit _ ih =>
    rw [List.flatten_cons, ← List.append_assoc]
    exact ih _ (hvisit.lastSelection_eq_none before)

/-- A scan that does not fail gives what the tables heard last yield. -/
theorem Scanned.lastSelection_eq {entry : String} {owner : κ} {choice : Option (Selection μ)}
    {said : List (Exchange κ μ)} (h : Scanned entry owner (.ok choice) said) :
    lastSelection said.reverse = choice := by
  cases h with
  | @answered methods _ _ h =>
    cases h with
    | chosen hbefore hlast =>
      rw [← List.cons_append, List.reverse_append]
      cases hlast with
      | @mk method _ scopes rows span _ hspan =>
        change (analyze rows (inlineRanges scopes)).map _ = _
        rw [hspan]
        rfl
    | exhausted hmethods =>
      exact lastSelection_eq_none_of_passedOver hmethods [.methods owner (.ok methods)] rfl

theorem EndsWithFault.unique {e e' : QueryError} {said : List (Exchange κ μ)}
    (h : EndsWithFault e said) (h' : EndsWithFault e' said) : e = e' := by
  obtain ⟨before, last, rfl, hlast, -⟩ := h
  obtain ⟨before', last', heq, hlast', -⟩ := h'
  obtain ⟨-, rfl⟩ := List.append_inj' heq rfl |>.imp_right List.singleton_inj.mp
  exact Option.some.inj (hlast.symm.trans hlast')

theorem EndsWithFault.not_fault?_eq_none {e : QueryError} {said : List (Exchange κ μ)}
    (h : EndsWithFault e said) : ¬ ∀ exchange ∈ said, exchange.fault? = none := by
  obtain ⟨before, last, rfl, hlast, -⟩ := h
  intro hnone
  rw [hnone last (List.mem_append_right _ (List.mem_singleton_self _))] at hlast
  cases hlast

/-- What is said during a scan has one outcome only. -/
theorem Scanned.unique {entry : String} {owner : κ}
    {outcome outcome' : Except QueryError (Option (Selection μ))} {said : List (Exchange κ μ)}
    (h : Scanned entry owner outcome said) (h' : Scanned entry owner outcome' said) :
    outcome = outcome' := by
  -- a failure is heard last, and otherwise the choice is read off the two tables heard last
  cases outcome with
  | error e =>
    cases outcome' with
    | error e' => rw [h.endsWithFault.unique h'.endsWithFault]
    | ok choice' => exact absurd h'.fault?_eq_none h.endsWithFault.not_fault?_eq_none
  | ok choice =>
    cases outcome' with
    | error e' => exact absurd h.fault?_eq_none h'.endsWithFault.not_fault?_eq_none
    | ok choice' => rw [← h.lastSelection_eq, ← h'.lastSelection_eq]

/-! ### Locations -/

/-- What comes out of a location, and what is said until then, by what came out of its scan.  The
source file is asked for once, and only if a method was chosen. -/
def Located (entry : String) (owner : κ)
    (scan : Except QueryError (Option (Selection μ)) × List (Exchange κ μ))
    (result : Except ResolveError Location × List (Exchange κ μ)) : Prop :=
  match scan with
  | (.error e, said) => result = (.error (.introspection e), said)
  | (.ok none, said) => result = (.error (.noResolvableMethod entry), said)
  | (.ok (some selection), said) =>
    ∃ answer, result = (match answer with
      | .ok name => .ok ⟨ModifiedUtf8.decode name, selection.span.first, selection.span.last⟩
      | .error e => .error (.introspection e), said ++ [.sourceFile owner answer])

theorem Located.append {entry : String} {owner : κ} {choice : Option (Selection μ)}
    {outcome : Except ResolveError Location} {more : List (Exchange κ μ)}
    (h : Located entry owner (.ok choice, []) (outcome, more)) (said : List (Exchange κ μ)) :
    Located entry owner (.ok choice, said) (outcome, said ++ more) := by
  cases choice with
  | none =>
    obtain ⟨rfl, rfl⟩ := Prod.mk.inj h
    rw [List.append_nil]
    rfl
  | some selection =>
    obtain ⟨answer, h⟩ := h
    obtain ⟨rfl, rfl⟩ := Prod.mk.inj h
    exact ⟨answer, rfl⟩

namespace Introspector

/-- What is left to do for a location once the scan is over. -/
def conclude {m : Type → Type} [Monad m] (source : Introspector m κ μ) (entry : String)
    (owner : κ) : Option (Selection μ) → ExceptT ResolveError m Location
  | none => throw (.noResolvableMethod entry)
  | some selection =>
    Held.use ((source.sourceFile owner).adapt ResolveError.introspection) fun name => do
      let location : Location :=
        ⟨ModifiedUtf8.decode name, selection.span.first, selection.span.last⟩
      source.report (locationEvent location)
      pure location

theorem resolve_eq_conclude {m : Type → Type} [Monad m] (source : Introspector m κ μ)
    (entry : String) (owner : κ) : source.resolve entry owner =
      (source.select entry owner).adapt ResolveError.introspection >>=
        source.conclude entry owner := rfl

variable (source : Introspector (StateM σ) κ μ) (entry : String)

theorem says_conclude (owner : κ) (choice : Option (Selection μ)) :
    Says (source.overheard.conclude entry owner choice) (source.conclude entry owner choice)
      fun outcome said => Located entry owner (.ok choice, []) (outcome, said) := by
  cases choice with
  | none => exact Says.throw rfl
  | some selection =>
    have hquestion : (source.overheard.sourceFile owner).adapt ResolveError.introspection =
        Held.overheard <$> (overhear (.sourceFile owner) Held.value
          (source.sourceFile owner)).adapt ResolveError.introspection := adapt_overhearHeld _ _ _
    unfold conclude
    rw [hquestion]
    refine (says_overhear_adapt _ _ _ _).use ?_ ?_
    · rintro e _ ⟨answer, rfl, houtcome⟩
      cases answer <;> cases houtcome
      exact ⟨.error _, rfl⟩
    · rintro held _ ⟨answer, rfl, houtcome⟩
      cases answer <;> cases houtcome
      exact Says.lift_bind (Says.pure ⟨.ok held.value, rfl⟩)

/-- Listening does not change the location. -/
theorem heard_resolve (owner : κ) (state : σ) :
    (heard (source.overheard.resolve entry owner) state).1 =
      ((source.resolve entry owner).run.run state).1 := by
  have hselect : Says ((source.overheard.select entry owner).adapt ResolveError.introspection)
      ((source.select entry owner).adapt ResolveError.introspection) fun _ _ => True :=
    (source.says_select entry owner).adapt fun _ _ _ => trivial
  have hresolve : Says (source.overheard.resolve entry owner) (source.resolve entry owner)
      fun _ _ => True := by
    rw [resolve_eq_conclude, resolve_eq_conclude]
    refine hselect.bind (fun _ _ _ => trivial) ?_
    intro choice _ _
    exact (source.says_conclude entry owner choice).mono fun _ _ _ => trivial
  exact (hresolve.heard state).1

/-- A class is located by what comes out of its scan. -/
theorem located (owner : κ) (state : σ) :
    Located entry owner (heard (source.overheard.select entry owner) state)
      (heard (source.overheard.resolve entry owner) state) := by
  obtain ⟨said, hfrom, -⟩ := source.says_select entry owner state
  have hadapt := hfrom.adapt ResolveError.introspection
  rw [hfrom.heard_eq, resolve_eq_conclude]
  rcases hrun : (source.select entry owner).run.run state with ⟨outcome, state'⟩
  have hrun' : ((source.select entry owner).adapt ResolveError.introspection).run.run state =
      (outcome.mapError ResolveError.introspection, state') := by
    change ((Except.mapError _ <$> (source.select entry owner).run).run state) = _
    rw [StateT.run_map, hrun]
    rfl
  cases outcome with
  | error e =>
    have hresolve := hadapt.bind_error (f := source.overheard.conclude entry owner)
      (g := source.conclude entry owner) hrun'
    rw [hresolve.heard_eq, ExceptT.run_bind, StateT.run_bind, hrun']
    rfl
  | ok choice =>
    obtain ⟨more, hfrom', hlocated⟩ := source.says_conclude entry owner choice state'
    rw [(hadapt.bind_ok hrun' hfrom').heard_eq, ExceptT.run_bind, StateT.run_bind, hrun']
    exact hlocated.append said

/-- **What is said during a scan and what comes out of it**, for any source in any state.  Listening
changes no outcome.  The scan has an outcome if and only if what is said has the shape that belongs
to it; it fails with an error if and only if that error is the first and is heard last; and the
location follows from the scan with at most one more question. -/
theorem first_match (owner : κ) (state : σ) :
    (heard (source.overheard.select entry owner) state).1 =
        ((source.select entry owner).run.run state).1 ∧
      (∀ outcome, ((source.select entry owner).run.run state).1 = outcome ↔
        Scanned entry owner outcome (heard (source.overheard.select entry owner) state).2) ∧
      (∀ e, ((source.select entry owner).run.run state).1 = .error e ↔
        EndsWithFault e (heard (source.overheard.select entry owner) state).2) ∧
      (heard (source.overheard.resolve entry owner) state).1 =
        ((source.resolve entry owner).run.run state).1 ∧
      Located entry owner (heard (source.overheard.select entry owner) state)
        (heard (source.overheard.resolve entry owner) state) := by
  obtain ⟨hsame, hscanned⟩ := (source.says_select entry owner).heard state
  refine ⟨hsame, ?_, ?_, source.heard_resolve entry owner state, source.located entry owner state⟩
  · intro outcome
    constructor
    · rintro rfl
      exact hscanned
    · exact hscanned.unique
  · intro e
    constructor
    · intro he
      rw [he] at hscanned
      exact hscanned.endsWithFault
    · intro he
      cases houtcome : ((source.select entry owner).run.run state).1 with
      | error e' =>
        rw [houtcome] at hscanned
        rw [hscanned.endsWithFault.unique he]
      | ok choice =>
        rw [houtcome] at hscanned
        exact absurd hscanned.fault?_eq_none he.not_fault?_eq_none

end Introspector

end ClosureSpan
