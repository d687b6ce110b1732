import Mathlib.Data.List.Forall2
import ClosureSpan.Location
import ClosureSpan.Vm.Host

/-!
# Two sources that agree

A source that asks a machine is compared with one that asks nobody.  Two computations agree if they
succeed with values that belong together or fail with the same error, on every machine that answers
in a given way, and the machine goes on answering in that way.  Agreement composes, and so two
sources whose answers belong together locate a class in the same way.

## Main definitions

* `Gives x P`, `Keeps x` — a computation after which the machine answers as before.
* `Agrees vm R x y` — the computations agree on machines that answer like `vm`.
* `Introspector.Simulates` — the answers of two sources belong together.

## Main results

* `Agrees.use` — uses of lent values agree.
* `Introspector.Simulates.resolve` — **the sources locate a class in the same way.**
-/

namespace ClosureSpan

variable {ε α β γ δ : Type}

/-! ### Agreement -/

/-- The computation gives a value of this kind, and after it the machine answers as before. -/
def Gives (x : HostM α) (P : α → Prop) : Prop :=
  ∀ host, (x.run host).2.vm = host.vm ∧ P (x.run host).1

/-- After the computation the machine answers as before. -/
def Keeps (x : HostM α) : Prop := Gives x fun _ => True

/-- Both outcomes are failures with the same error, or successes with values that belong
together. -/
inductive Matches (R : α → β → Prop) : Except ε α → Except ε β → Prop
  | ok {a : α} {b : β} (h : R a b) : Matches R (.ok a) (.ok b)
  | error (e : ε) : Matches R (.error e) (.error e)

theorem Matches.mono {R R' : α → β → Prop} {outcome : Except ε α} {outcome' : Except ε β}
    (h : Matches R outcome outcome') (hmono : ∀ a b, R a b → R' a b) :
    Matches R' outcome outcome' := by
  cases h with
  | ok hab => exact .ok (hmono _ _ hab)
  | error e => exact .error e

theorem Matches.mapError {ε' : Type} {R : α → β → Prop} {outcome : Except ε α}
    {outcome' : Except ε β} (h : Matches R outcome outcome') (f : ε → ε') :
    Matches R (outcome.mapError f) (outcome'.mapError f) := by
  cases h with
  | ok hab => exact .ok hab
  | error e => exact .error (f e)

/-- Outcomes that match up to equality are the same. -/
theorem Matches.eq {outcome outcome' : Except ε α} (h : Matches Eq outcome outcome') :
    outcome = outcome' := by
  cases h with
  | ok hab => rw [hab]
  | error e => rfl

/-- On a machine that answers like `vm`, the outcome of `x` matches that of `y`, and the machine
still answers like `vm` afterwards. -/
def Agrees (vm : Vm) (R : α → β → Prop) (x : ExceptT ε HostM α) (y : ExceptT ε Id β) : Prop :=
  ∀ host, host.vm = vm → (x.run.run host).2.vm = vm ∧ Matches R (x.run.run host).1 y.run.run

theorem Gives.pure {P : α → Prop} {a : α} (h : P a) : Gives (pure a) P := fun _ => ⟨rfl, h⟩

theorem Gives.mono {P Q : α → Prop} {x : HostM α} (h : Gives x P) (hmono : ∀ a, P a → Q a) :
    Gives x Q := fun host => ⟨(h host).1, hmono _ (h host).2⟩

theorem Gives.bind {P : α → Prop} {Q : β → Prop} {x : HostM α} {f : α → HostM β} (h : Gives x P)
    (hf : ∀ a, P a → Gives (f a) Q) : Gives (x >>= f) Q := by
  intro host
  obtain ⟨hvm, hvalue⟩ := h host
  obtain ⟨hvm', hvalue'⟩ := hf _ hvalue (x.run host).2
  exact ⟨hvm'.trans hvm, hvalue'⟩

namespace Keeps

theorem pure (a : α) : Keeps (pure a) := Gives.pure trivial

theorem bind {x : HostM α} {f : α → HostM β} (h : Keeps x) (hf : ∀ a, Keeps (f a)) :
    Keeps (x >>= f) := Gives.bind h fun a _ => hf a

theorem record (call : Call) : Keeps (Host.record call) := fun _ => ⟨rfl, trivial⟩

theorem allocate (label : Label) : Keeps (Host.allocate label) := fun _ => ⟨rfl, trivial⟩

theorem report (event : Event) : Keeps (Host.report event) := by
  intro host
  rw [Host.run_report]
  exact ⟨rfl, trivial⟩

theorem deallocate (allocation : Allocation) : Keeps (Host.deallocate allocation) := by
  refine Keeps.bind (fun _ => ⟨rfl, trivial⟩) fun host => ?_
  split
  next => exact pure _
  next =>
    refine (record _).bind fun _ => ?_
    split
    next => exact fun _ => ⟨rfl, trivial⟩
    next => exact pure _

end Keeps

namespace Agrees

variable {vm : Vm} {R : α → β → Prop} {S : γ → δ → Prop}

theorem pure {a : α} {b : β} (h : R a b) :
    Agrees vm R (pure a : ExceptT ε HostM α) (pure b) := fun _ hvm => ⟨hvm, .ok h⟩

theorem throw (e : ε) : Agrees vm R (throw e : ExceptT ε HostM α) (throw e) :=
  fun _ hvm => ⟨hvm, .error e⟩

theorem bind {x : ExceptT ε HostM α} {y : ExceptT ε Id β} {f : α → ExceptT ε HostM γ}
    {g : β → ExceptT ε Id δ} (h : Agrees vm R x y)
    (hf : ∀ a b, R a b → Agrees vm S (f a) (g b)) : Agrees vm S (x >>= f) (y >>= g) := by
  intro host hvm
  obtain ⟨hvm', hmatch⟩ := h host hvm
  -- both runs stand for their outcomes, so that the match can be taken apart
  generalize hx : x.run.run host = after at hvm' hmatch
  generalize hy : y.run.run = outcome' at hmatch
  obtain ⟨outcome, host'⟩ := after
  rw [ExceptT.run_bind, ExceptT.run_bind, StateT.run_bind, Id.run_bind, hx, hy]
  cases hmatch with
  | ok hab => exact hf _ _ hab host' hvm'
  | error e => exact ⟨hvm', .error e⟩

/-- What one side does with its machine alone counts only by its value. -/
theorem lift_bind {P : γ → Prop} {x : HostM γ} {f : γ → ExceptT ε HostM α} {y : ExceptT ε Id β}
    (hx : Gives x P) (h : ∀ c, P c → Agrees vm R (f c) y) :
    Agrees vm R ((liftM x : ExceptT ε HostM γ) >>= f) y := by
  intro host hvm
  obtain ⟨hvm', hvalue⟩ := hx host
  exact h _ hvalue _ (hvm'.trans hvm)

theorem mono {R' : α → β → Prop} {x : ExceptT ε HostM α} {y : ExceptT ε Id β}
    (h : Agrees vm R x y) (hmono : ∀ a b, R a b → R' a b) : Agrees vm R' x y := by
  intro host hvm
  obtain ⟨hvm', hmatch⟩ := h host hvm
  exact ⟨hvm', hmatch.mono hmono⟩

theorem map_left {S : γ → β → Prop} {x : ExceptT ε HostM α} {y : ExceptT ε Id β} {f : α → γ}
    (h : Agrees vm R x y) (hf : ∀ a b, R a b → S (f a) b) : Agrees vm S (f <$> x) y := by
  rw [← bind_pure_comp, ← bind_pure y]
  exact h.bind fun a b hab => pure (hf a b hab)

/-- Reading a failure in other words on both sides. -/
theorem adapt {ε' : Type} {x : ExceptT ε HostM α} {y : ExceptT ε Id β} (h : Agrees vm R x y)
    (f : ε → ε') : Agrees vm R (x.adapt f) (y.adapt f) := by
  intro host hvm
  obtain ⟨hvm', hmatch⟩ := h host hvm
  exact ⟨hvm', hmatch.mapError f⟩

end Agrees

/-- The values belong together, and giving the first one back changes no answer. -/
structure Held.Related (R : α → β → Prop) (held : Held HostM α) (held' : Held Id β) : Prop where
  value : R held.value held'.value
  release : Keeps held.release

/-- Uses of lent values agree. -/
theorem Agrees.use {vm : Vm} {R : α → β → Prop} {S : γ → δ → Prop}
    {x : ExceptT ε HostM (Held HostM α)} {y : ExceptT ε Id (Held Id β)}
    {f : α → ExceptT ε HostM γ} {g : β → ExceptT ε Id δ} (h : Agrees vm (Held.Related R) x y)
    (hf : ∀ a b, R a b → Agrees vm S (f a) (g b)) : Agrees vm S (Held.use x f) (Held.use y g) := by
  refine Agrees.bind h fun held held' hheld => ?_
  -- the outcome is that of the body, and the release comes after it on one side only
  intro host hvm
  obtain ⟨hvm', hmatch⟩ := hf _ _ hheld.value host hvm
  exact ⟨(hheld.release _).1.trans hvm', hmatch⟩

/-! ### Sources -/

namespace Introspector

variable {κ μ κ' μ' : Type}

/-- The answers of two sources belong together, as far as the location of a class by way of an entry
method depends on them. -/
structure Simulates (vm : Vm) (entry : String) (SameClass : κ → κ' → Prop)
    (SameMethod : μ → μ' → Prop) (source : Introspector HostM κ μ)
    (reference : Introspector Id κ' μ') : Prop where
  methods : ∀ owner owner', SameClass owner owner' →
    Agrees vm (Held.Related (List.Forall₂ SameMethod)) (source.methods owner)
      (reference.methods owner')
  modifiers : ∀ method method', SameMethod method method' →
    Agrees vm Eq (source.modifiers method) (reference.modifiers method')
  name : ∀ method method', SameMethod method method' →
    Agrees vm (Held.Related fun name name' => name = utf8 entry ↔ name' = utf8 entry)
      (source.name method) (reference.name method')
  locals : ∀ method method', SameMethod method method' →
    Agrees vm (Held.Related fun scopes scopes' => inlineRanges scopes = inlineRanges scopes')
      (source.locals method) (reference.locals method')
  lines : ∀ method method', SameMethod method method' →
    Agrees vm (Held.Related Eq) (source.lines method) (reference.lines method')
  sourceFile : ∀ owner owner', SameClass owner owner' →
    Agrees vm (Held.Related fun name name' => ModifiedUtf8.decode name = ModifiedUtf8.decode name')
      (source.sourceFile owner) (reference.sourceFile owner')
  report : ∀ event, Keeps (source.report event)
  silent : ∀ event, reference.report event = pure ()

/-- Selections of the same lines. -/
def SameSpan (selection : Selection μ) (selection' : Selection μ') : Prop :=
  selection.span = selection'.span

namespace Simulates

variable {vm : Vm} {entry : String} {SameClass : κ → κ' → Prop} {SameMethod : μ → μ' → Prop}
  {source : Introspector HostM κ μ} {reference : Introspector Id κ' μ'}

/-- Telling an event changes nothing on either side. -/
theorem report_bind (h : Simulates vm entry SameClass SameMethod source reference)
    {R : α → β → Prop} {event event' : Event} {x : ExceptT ε HostM α} {y : ExceptT ε Id β}
    (hxy : Agrees vm R x y) :
    Agrees vm R ((liftM (source.report event) : ExceptT ε HostM Unit) >>= fun _ => x)
      ((liftM (reference.report event') : ExceptT ε Id Unit) >>= fun _ => y) := by
  rw [h.silent event']
  exact Agrees.lift_bind (h.report event) fun _ _ => hxy

theorem hasName (h : Simulates vm entry SameClass SameMethod source reference) {method : μ}
    {method' : μ'} (hmethod : SameMethod method method') :
    Agrees vm Eq (source.hasName entry method) (reference.hasName entry method') := by
  refine (h.name method method' hmethod).use fun name name' hname => Agrees.pure ?_
  exact decide_eq_decide.mpr hname

theorem measure (h : Simulates vm entry SameClass SameMethod source reference) {method : μ}
    {method' : μ'} (hmethod : SameMethod method method') :
    Agrees vm (Option.Rel SameSpan) (source.measure entry method)
      (reference.measure entry method') := by
  refine (h.locals method method' hmethod).use fun scopes scopes' hscopes => ?_
  refine (h.lines method method' hmethod).use fun rows rows' hrows => ?_
  subst hrows
  refine h.report_bind (Agrees.pure ?_)
  rw [hscopes]
  cases analyze rows (inlineRanges scopes') with
  | none => exact .none
  | some span => exact .some rfl

theorem candidate (h : Simulates vm entry SameClass SameMethod source reference) {method : μ}
    {method' : μ'} (hmethod : SameMethod method method') :
    Agrees vm (Option.Rel SameSpan) (source.candidate entry method)
      (reference.candidate entry method') := by
  refine (h.modifiers method method' hmethod).bind fun modifiers _ hmodifiers => ?_
  subst hmodifiers
  split
  next => exact Agrees.pure .none
  next =>
    refine (h.hasName hmethod).bind fun named _ hnamed => ?_
    subst hnamed
    split
    next => exact h.measure hmethod
    next => exact Agrees.pure .none

/-- The scans stop at methods that belong together. -/
theorem scan (h : Simulates vm entry SameClass SameMethod source reference) {methods : List μ}
    {methods' : List μ'} (hmethods : List.Forall₂ SameMethod methods methods') :
    Agrees vm (Option.Rel SameSpan) (source.scan entry methods)
      (reference.scan entry methods') := by
  induction hmethods with
  | nil => exact Agrees.pure .none
  | cons hmethod _ ih =>
    rw [scan_cons, scan_cons]
    refine (h.candidate hmethod).bind fun selection selection' hselection => ?_
    cases hselection with
    | none => exact ih
    | some hspan => exact Agrees.pure (.some hspan)

theorem select (h : Simulates vm entry SameClass SameMethod source reference) {owner : κ}
    {owner' : κ'} (howner : SameClass owner owner') :
    Agrees vm (Option.Rel SameSpan) (source.select entry owner) (reference.select entry owner') :=
  (h.methods owner owner' howner).use fun _ _ hmethods => h.scan hmethods

/-- **The sources locate a class in the same way.** -/
theorem resolve (h : Simulates vm entry SameClass SameMethod source reference) {owner : κ}
    {owner' : κ'} (howner : SameClass owner owner') :
    Agrees vm Eq (source.resolve entry owner) (reference.resolve entry owner') := by
  refine ((h.select howner).adapt _).bind fun selection selection' hselection => ?_
  cases hselection with
  | none => exact Agrees.throw _
  | @some selection selection' hspan =>
    have hspan : selection.span = selection'.span := hspan
    refine ((h.sourceFile owner owner' howner).adapt _).use fun name name' hname => ?_
    refine h.report_bind (Agrees.pure ?_)
    rw [hname, hspan]

end Simulates
end Introspector
end ClosureSpan
