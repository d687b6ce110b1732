import ClosureSpan.Location

/-!
# Listening to a source

A source of method metadata may be listened to: whenever it is asked something, the question is
written down with its answer, and all else is passed on.  Listening changes nothing.  What a
computation says from a given state is then a list of exchanges, and this list can be told piece by
piece, as the computation is put together.

The source may do anything with a state of its own, so each of its answers can be any value or any
error, whatever it answered before.

## Main definitions

* `Exchange` — a question with its answer.
* `Introspector.overheard` — a source that is listened to.
* `Says x y Spoken` — `x` does what `y` does, and what it says is as `Spoken` has it.

## Main results

* `Says.bind`, `Says.use` — what is said by computations that are put together.
-/

namespace ClosureSpan

/-! ### Exchanges -/

/-- A question with its answer. -/
inductive Exchange (κ μ : Type) where
  /-- The methods of a class. -/
  | methods (owner : κ) (answer : Except QueryError (List μ))
  /-- The modifier bits of a method. -/
  | modifiers (method : μ) (answer : Except QueryError Int)
  /-- The name of a method. -/
  | name (method : μ) (answer : Except QueryError Bytes)
  /-- The scopes of the local variables of a method. -/
  | locals (method : μ) (answer : Except QueryError (List Scope))
  /-- The line table of a method. -/
  | lines (method : μ) (answer : Except QueryError (List LineRow))
  /-- The source file of a class. -/
  | sourceFile (owner : κ) (answer : Except QueryError Bytes)

variable {κ μ σ ε α β : Type}

/-- The error in an answer. -/
def fault? : Except ε α → Option ε
  | .ok _ => none
  | .error e => some e

/-- The error that the question failed with, if it failed. -/
def Exchange.fault? : Exchange κ μ → Option QueryError
  | methods _ answer => ClosureSpan.fault? answer
  | modifiers _ answer => ClosureSpan.fault? answer
  | name _ answer => ClosureSpan.fault? answer
  | locals _ answer => ClosureSpan.fault? answer
  | lines _ answer => ClosureSpan.fault? answer
  | sourceFile _ answer => ClosureSpan.fault? answer

/-! ### Sources that are listened to -/

/-- What is done with a source that is listened to. -/
abbrev OverheardM (κ μ σ : Type) := StateT (List (Exchange κ μ)) (StateM σ)

/-- Puts a question, and writes it down with what was read from its answer. -/
def overhear (exchange : Except QueryError β → Exchange κ μ) (read : α → β)
    (question : ExceptT QueryError (StateM σ) α) : ExceptT QueryError (OverheardM κ μ σ) α :=
  ExceptT.mk do
    let answer ← (liftM question.run : OverheardM κ μ σ _)
    modify fun said => said ++ [exchange (answer.map read)]
    pure answer

/-- A held value, to be given back while the source is listened to. -/
def Held.overheard (held : Held (StateM σ) α) : Held (OverheardM κ μ σ) α :=
  ⟨held.value, liftM held.release⟩

/-- A question for a value that has to be given back, as it is heard. -/
def overhearHeld (exchange : Except QueryError α → Exchange κ μ)
    (question : ExceptT QueryError (StateM σ) (Held (StateM σ) α)) :
    ExceptT QueryError (OverheardM κ μ σ) (Held (OverheardM κ μ σ) α) :=
  Held.overheard <$> overhear exchange Held.value question

/-- The source, listened to. -/
def Introspector.overheard (source : Introspector (StateM σ) κ μ) :
    Introspector (OverheardM κ μ σ) κ μ where
  methods owner := overhearHeld (.methods owner) (source.methods owner)
  modifiers method := overhear (.modifiers method) id (source.modifiers method)
  name method := overhearHeld (.name method) (source.name method)
  locals method := overhearHeld (.locals method) (source.locals method)
  lines method := overhearHeld (.lines method) (source.lines method)
  sourceFile owner := overhearHeld (.sourceFile owner) (source.sourceFile owner)
  report event := liftM (source.report event)

/-- The outcome of a computation from a state, with what is said until then. -/
def heard (x : ExceptT ε (OverheardM κ μ σ) α) (state : σ) :
    Except ε α × List (Exchange κ μ) := ((x.run.run []).run state).1

/-! ### What computations say -/

/-- From this state `x` says `said`, whatever was said before, and apart from that it does what `y`
does. -/
def SaysFrom (state : σ) (said : List (Exchange κ μ)) (x : ExceptT ε (OverheardM κ μ σ) α)
    (y : ExceptT ε (StateM σ) α) : Prop :=
  ∀ before, (x.run.run before).run state =
    (((y.run.run state).1, before ++ said), (y.run.run state).2)

/-- From every state `x` does what `y` does, and what it says is as `Spoken` has it. -/
def Says (x : ExceptT ε (OverheardM κ μ σ) α) (y : ExceptT ε (StateM σ) α)
    (Spoken : Except ε α → List (Exchange κ μ) → Prop) : Prop :=
  ∀ state, ∃ said, SaysFrom state said x y ∧ Spoken (y.run.run state).1 said

theorem SaysFrom.heard_eq {state : σ} {said : List (Exchange κ μ)}
    {x : ExceptT ε (OverheardM κ μ σ) α} {y : ExceptT ε (StateM σ) α}
    (h : SaysFrom state said x y) : heard x state = ((y.run.run state).1, said) := by
  rw [heard, h, List.nil_append]

/-- What is heard is the outcome of `y` and what `Spoken` has of it. -/
theorem Says.heard {x : ExceptT ε (OverheardM κ μ σ) α} {y : ExceptT ε (StateM σ) α}
    {Spoken : Except ε α → List (Exchange κ μ) → Prop} (h : Says x y Spoken) (state : σ) :
    (heard x state).1 = (y.run.run state).1 ∧ Spoken (y.run.run state).1 (heard x state).2 := by
  obtain ⟨said, hfrom, hspoken⟩ := h state
  rw [hfrom.heard_eq]
  exact ⟨rfl, hspoken⟩

section bind

variable {state : σ} {said more : List (Exchange κ μ)} {x : ExceptT ε (OverheardM κ μ σ) α}
  {y : ExceptT ε (StateM σ) α} {f : α → ExceptT ε (OverheardM κ μ σ) β}
  {g : α → ExceptT ε (StateM σ) β}

theorem SaysFrom.bind_ok {a : α} {state' : σ} (h : SaysFrom state said x y)
    (hy : y.run.run state = (.ok a, state')) (hf : SaysFrom state' more (f a) (g a)) :
    SaysFrom state (said ++ more) (x >>= f) (y >>= g) := by
  intro before
  have hx := h before
  rw [hy] at hx
  have hgoal : ((y >>= g).run.run state) = (g a).run.run state' := by
    rw [ExceptT.run_bind, StateT.run_bind, hy]
    rfl
  rw [hgoal, ExceptT.run_bind, StateT.run_bind, StateT.run_bind, hx, ← List.append_assoc]
  exact hf (before ++ said)

theorem SaysFrom.bind_error {e : ε} {state' : σ} (h : SaysFrom state said x y)
    (hy : y.run.run state = (.error e, state')) : SaysFrom state said (x >>= f) (y >>= g) := by
  intro before
  have hx := h before
  rw [hy] at hx
  have hgoal : ((y >>= g).run.run state) = (.error e, state') := by
    rw [ExceptT.run_bind, StateT.run_bind, hy]
    rfl
  rw [hgoal, ExceptT.run_bind, StateT.run_bind, StateT.run_bind, hx]
  rfl

end bind

/-- Reading a failure in other words is not heard. -/
theorem SaysFrom.adapt {ε' : Type} {state : σ} {said : List (Exchange κ μ)}
    {x : ExceptT ε (OverheardM κ μ σ) α} {y : ExceptT ε (StateM σ) α}
    (h : SaysFrom state said x y) (f : ε → ε') :
    SaysFrom state said (x.adapt f) (y.adapt f) := by
  intro before
  have hadapt : (x.adapt f).run = Except.mapError f <$> x.run := rfl
  rw [hadapt, StateT.run_map, StateT.run_map, h before]
  rfl

namespace Says

variable {Spoken Spoken' : Except ε α → List (Exchange κ μ) → Prop}
  {x : ExceptT ε (OverheardM κ μ σ) α} {y : ExceptT ε (StateM σ) α}

theorem pure {a : α} (h : Spoken (.ok a) []) :
    Says (Pure.pure a : ExceptT ε (OverheardM κ μ σ) α) (Pure.pure a) Spoken := by
  intro state
  refine ⟨[], ?_, h⟩
  intro before
  rw [List.append_nil]
  rfl

theorem throw {e : ε} (h : Spoken (.error e) []) :
    Says (MonadExcept.throw e : ExceptT ε (OverheardM κ μ σ) α) (MonadExcept.throw e) Spoken := by
  intro state
  refine ⟨[], ?_, h⟩
  intro before
  rw [List.append_nil]
  rfl

theorem mono (h : Says x y Spoken)
    (hmono : ∀ outcome said, Spoken outcome said → Spoken' outcome said) : Says x y Spoken' := by
  intro state
  obtain ⟨said, hfrom, hspoken⟩ := h state
  exact ⟨said, hfrom, hmono _ _ hspoken⟩

theorem bind {f : α → ExceptT ε (OverheardM κ μ σ) β} {g : α → ExceptT ε (StateM σ) β}
    {After : Except ε β → List (Exchange κ μ) → Prop} (h : Says x y Spoken)
    (herror : ∀ e said, Spoken (.error e) said → After (.error e) said)
    (hf : ∀ a said, Spoken (.ok a) said →
      Says (f a) (g a) fun outcome more => After outcome (said ++ more)) :
    Says (x >>= f) (y >>= g) After := by
  intro state
  obtain ⟨said, hfrom, hspoken⟩ := h state
  rcases hy : y.run.run state with ⟨outcome, state'⟩
  rw [hy] at hspoken
  cases outcome with
  | error e =>
    -- after a failure nothing more is said
    refine ⟨said, hfrom.bind_error hy, ?_⟩
    rw [ExceptT.run_bind, StateT.run_bind, hy]
    exact herror e said hspoken
  | ok a =>
    obtain ⟨more, hfrom', hspoken'⟩ := hf a said hspoken state'
    refine ⟨said ++ more, hfrom.bind_ok hy hfrom', ?_⟩
    rw [ExceptT.run_bind, StateT.run_bind, hy]
    exact hspoken'

/-- What the source is told besides its questions is not heard. -/
theorem lift_bind {f : ExceptT ε (OverheardM κ μ σ) α} {g : ExceptT ε (StateM σ) α}
    {action : StateM σ Unit} (h : Says f g Spoken) :
    Says ((liftM (liftM action : OverheardM κ μ σ Unit) : ExceptT ε (OverheardM κ μ σ) Unit) >>=
        fun _ => f)
      ((liftM action : ExceptT ε (StateM σ) Unit) >>= fun _ => g) Spoken := by
  intro state
  obtain ⟨said, hfrom, hspoken⟩ := h (action.run state).2
  refine ⟨said, ?_, hspoken⟩
  intro before
  exact hfrom before

theorem adapt {ε' : Type} {Spoken' : Except ε' α → List (Exchange κ μ) → Prop} {f : ε → ε'}
    (h : Says x y Spoken)
    (hf : ∀ outcome said, Spoken outcome said → Spoken' (outcome.mapError f) said) :
    Says (x.adapt f) (y.adapt f) Spoken' := by
  intro state
  obtain ⟨said, hfrom, hspoken⟩ := h state
  exact ⟨said, hfrom.adapt f, hf _ _ hspoken⟩

/-- Giving a value back says nothing. -/
theorem release {action : StateM σ Unit} (h : Says x y Spoken) :
    Says (ExceptT.mk do
        let outcome ← x.run
        (liftM action : OverheardM κ μ σ Unit)
        Pure.pure outcome)
      (ExceptT.mk do
        let outcome ← y.run
        action
        Pure.pure outcome) Spoken := by
  intro state
  obtain ⟨said, hfrom, hspoken⟩ := h state
  refine ⟨said, ?_, hspoken⟩
  intro before
  rw [ExceptT.run_mk, StateT.run_bind, StateT.run_bind, hfrom before]
  rfl

end Says

/-- A question says itself. -/
theorem says_overhear (exchange : Except QueryError β → Exchange κ μ) (read : α → β)
    (question : ExceptT QueryError (StateM σ) α) :
    Says (overhear exchange read question) question
      fun outcome said => said = [exchange (outcome.map read)] := by
  intro state
  refine ⟨_, ?_, rfl⟩
  intro before
  rfl

/-- A question says the same when its failure is read in other words. -/
theorem says_overhear_adapt {ε' : Type} (exchange : Except QueryError β → Exchange κ μ)
    (read : α → β) (question : ExceptT QueryError (StateM σ) α) (f : QueryError → ε') :
    Says ((overhear exchange read question).adapt f) (question.adapt f)
      fun outcome said => ∃ answer : Except QueryError α,
        said = [exchange (answer.map read)] ∧ outcome = answer.mapError f := by
  refine (says_overhear exchange read question).adapt ?_
  intro answer said hsaid
  exact ⟨answer, hsaid, rfl⟩

theorem adapt_overhearHeld {ε' : Type} (exchange : Except QueryError α → Exchange κ μ)
    (question : ExceptT QueryError (StateM σ) (Held (StateM σ) α)) (f : QueryError → ε') :
    (overhearHeld exchange question).adapt f =
      Held.overheard <$> (overhear exchange Held.value question).adapt f := by
  apply ExceptT.ext
  rw [ExceptT.run_map]
  change Except.mapError f <$> (Held.overheard <$> overhear exchange Held.value question).run =
    Except.map Held.overheard <$> Except.mapError f <$> _
  rw [ExceptT.run_map, Functor.map_map, Functor.map_map]
  congr 1
  funext outcome
  cases outcome <;> rfl

/-- A use of a value says what is said to obtain it, and then what is said while it is held. -/
theorem Says.use {x : ExceptT ε (OverheardM κ μ σ) (Held (StateM σ) α)}
    {y : ExceptT ε (StateM σ) (Held (StateM σ) α)}
    {Spoken : Except ε (Held (StateM σ) α) → List (Exchange κ μ) → Prop}
    {f : α → ExceptT ε (OverheardM κ μ σ) β} {g : α → ExceptT ε (StateM σ) β}
    {After : Except ε β → List (Exchange κ μ) → Prop} (h : Says x y Spoken)
    (herror : ∀ e said, Spoken (.error e) said → After (.error e) said)
    (hf : ∀ held said, Spoken (.ok held) said →
      Says (f held.value) (g held.value) fun outcome more => After outcome (said ++ more)) :
    Says (Held.use (Held.overheard <$> x) f) (Held.use y g) After := by
  -- the value is given back on the side of the listener, so the map moves into the use
  have huse : Held.use (Held.overheard <$> x) f = (do
      let held ← x
      ExceptT.mk do
        let outcome ← (f held.value).run
        (liftM held.release : OverheardM κ μ σ Unit)
        Pure.pure outcome) := bind_map_left _ _ _
  rw [huse]
  refine h.bind herror ?_
  intro held said hsaid
  exact (hf held said hsaid).release

/-- A use of what a question asks for. -/
theorem Says.use_overhearHeld {exchange : Except QueryError α → Exchange κ μ}
    {question : ExceptT QueryError (StateM σ) (Held (StateM σ) α)}
    {f : α → ExceptT QueryError (OverheardM κ μ σ) β}
    {g : α → ExceptT QueryError (StateM σ) β}
    {After : Except QueryError β → List (Exchange κ μ) → Prop}
    (herror : ∀ e, After (.error e) [exchange (.error e)])
    (hf : ∀ value, Says (f value) (g value) fun outcome more =>
      After outcome (exchange (.ok value) :: more)) :
    Says (Held.use (overhearHeld exchange question) f) (Held.use question g) After := by
  refine (says_overhear exchange Held.value question).use ?_ ?_
  · rintro e _ rfl
    exact herror e
  · rintro held _ rfl
    exact hf held.value

end ClosureSpan
