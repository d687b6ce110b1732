import ClosureSpan.Location
import ClosureSpan.Proofs.Vm.Moves
import ClosureSpan.Proofs.Vm.Stages
import ClosureSpan.Session.Negotiation

/-!
# Questions are put together from moves

The questions that a tool asks, the search for an entry method, and the negotiation with a machine
are put together from moves.  Which calls they make is left open: a search asks questions, and a
negotiation makes the calls of a negotiation and may ask for the name of a status.

## Main definitions

* `Acts May x` — a computation put together from moves, whatever it gives.
* `Tries May x P` — the same for a computation that may fail.
* `Introspector.Acting` — a source of method metadata whose answers are put together from moves.

## Main results

* `Introspector.Acting.resolve` — locating a class is put together from the questions.
* `Tool.introspector_acting` — a machine that is asked answers with moves.
* `acts_negotiate` — so does the negotiation.
-/

namespace ClosureSpan

variable {ε α β : Type} {May : Call → Prop}

/-! ### Computations that may fail -/

/-- The computation is put together from moves, whatever it gives. -/
abbrev Acts (May : Call → Prop) (x : HostM α) : Prop := Moves May x fun _ => True

/-- The computation is put together from moves, and if it succeeds, it gives a value of a kind. -/
def Tries (May : Call → Prop) (x : ExceptT ε HostM α) (Value : α → Prop) : Prop :=
  Moves May x.run fun outcome => ∀ a, outcome = .ok a → Value a

/-- Something is obtained that is given back with moves. -/
def Lets (May : Call → Prop) (x : ExceptT ε HostM (Held HostM α)) : Prop :=
  Tries May x fun held => Acts May held.release

theorem Acts.pure (a : α) : Acts May (pure a) := Moves.pure trivial

theorem Acts.bind {x : HostM α} {f : α → HostM β} {P : β → Prop} (h : Acts May x)
    (hf : ∀ a, Moves May (f a) P) : Moves May (x >>= f) P := Moves.bind h fun a _ => hf a

theorem Moves.acts {x : HostM α} {P : α → Prop} (h : Moves May x P) : Acts May x :=
  h.mono fun _ _ => trivial

namespace Tries

variable {Value : α → Prop} {After : β → Prop} {x : ExceptT ε HostM α}

theorem acts (h : Tries May x Value) : Acts May x.run := Moves.acts h

theorem pure {a : α} (h : Value a) : Tries May (pure a : ExceptT ε HostM α) Value := by
  refine Moves.pure ?_
  rintro _ ⟨⟩
  exact h

theorem throw (e : ε) : Tries May (throw e : ExceptT ε HostM α) Value := Moves.pure nofun

theorem bind {f : α → ExceptT ε HostM β} (h : Tries May x Value)
    (hf : ∀ a, Value a → Tries May (f a) After) : Tries May (x >>= f) After := by
  change Moves May (x >>= f).run _
  rw [ExceptT.run_bind]
  refine Moves.bind h fun outcome houtcome => ?_
  cases outcome with
  | ok a => exact hf a (houtcome a rfl)
  | error e => exact Moves.pure nofun

/-- First something is done that does not fail. -/
theorem lift_bind {y : HostM β} {P : β → Prop} {f : β → ExceptT ε HostM α} (h : Moves May y P)
    (hf : ∀ b, P b → Tries May (f b) Value) :
    Tries May ((liftM y : ExceptT ε HostM β) >>= f) Value :=
  Moves.bind (f := fun b => (f b).run) h hf

theorem lift {y : HostM β} (h : Acts May y) :
    Tries May (liftM y : ExceptT ε HostM β) fun _ => True := by
  rw [← bind_pure (liftM y : ExceptT ε HostM β)]
  exact lift_bind h fun _ _ => pure trivial

/-- The machine is looked at. -/
theorem look {f : Host → ExceptT ε HostM α} (hblind : ∀ host, f host.bare = f host)
    (hf : ∀ host, Tries May (f host) Value) : Tries May (getThe Host >>= f) Value :=
  Moves.look (f := fun host => (f host).run) (fun host => congrArg ExceptT.run (hblind host)) hf

theorem adapt {ε' : Type} (h : Tries May x Value) (f : ε → ε') :
    Tries May (x.adapt f) Value := by
  refine Moves.bind h fun outcome houtcome => Moves.pure ?_
  cases outcome with
  | ok a => exact fun b hb => houtcome b (by cases hb; rfl)
  | error e => exact nofun

theorem map {f : α → β} (h : Tries May x Value) (hf : ∀ a, Value a → After (f a)) :
    Tries May (f <$> x) After := by
  rw [← bind_pure_comp]
  exact h.bind fun a ha => pure (hf a ha)

end Tries

namespace Lets

variable {x : ExceptT ε HostM (Held HostM α)}

/-- What is obtained is given back after a failure as well. -/
theorem use {f : α → ExceptT ε HostM β} {After : β → Prop} (h : Lets May x)
    (hf : ∀ a, Tries May (f a) After) : Tries May (Held.use x f) After := by
  refine Tries.bind h fun held hrelease => ?_
  refine Moves.bind (hf held.value) fun outcome houtcome => ?_
  exact hrelease.bind fun _ => Moves.pure houtcome

theorem map (h : Lets May x) (f : α → β) : Lets May (Held.map f <$> x) :=
  Tries.map h fun _ hrelease => hrelease

theorem adapt {ε' : Type} (h : Lets May x) (f : ε → ε') : Lets May (x.adapt f) := Tries.adapt h f

end Lets

/-! ### Buffers -/

namespace Buffer

theorem moves_ofText {label : Label} (h : label.namesStatus = false) (text : Option Bytes) :
    Moves May (ofText label text) fun buffer => Acts May buffer.release := by
  cases text with
  | none => exact .pure (Acts.pure _)
  | some text => exact (Moves.allocate h).bind fun _ hpiece => .pure (.deallocate hpiece)

theorem moves_ofTable {ρ : Type} {label : Label} (h : label.namesStatus = false)
    (table : Table ρ) :
    Moves May (ofTable label table) fun buffer =>
      Acts May buffer.release ∧ ∀ row ∈ buffer.contents, row ∈ table.rows := by
  unfold ofTable
  split
  next => exact .pure ⟨Acts.pure _, nofun⟩
  next =>
    refine (Moves.allocate h).bind fun _ hpiece => .pure ⟨.deallocate hpiece, ?_⟩
    intro row hrow
    unfold Table.visible at hrow
    split at hrow
    next => cases hrow
    next => exact List.mem_of_mem_take hrow

theorem lets_ofText {label : Label} (h : label.namesStatus = false) (text : Option Bytes) :
    Lets May (do
      let buffer ← Buffer.ofText label text
      pure buffer.held : ExceptT ε HostM (Held HostM Bytes)) :=
  Tries.lift_bind (moves_ofText h text) fun _ hrelease => Tries.pure hrelease

theorem lets_ofTable {ρ : Type} {label : Label} (h : label.namesStatus = false)
    (table : Table ρ) :
    Lets May (do
      let buffer ← Buffer.ofTable label table
      pure buffer.held : ExceptT ε HostM (Held HostM (List ρ))) :=
  Tries.lift_bind (moves_ofTable h table) fun _ hrelease => Tries.pure hrelease.1

end Buffer

namespace VariableEntry

theorem moves_ofRow (method : Handle) (index : Nat) (row : VmVariable) :
    Moves May (ofRow method index row) fun entry => Acts May entry.release := by
  refine (Buffer.moves_ofText rfl _).bind fun name hname => ?_
  refine (Buffer.moves_ofText rfl _).bind fun signature hsignature => ?_
  refine (Buffer.moves_ofText rfl _).bind fun generic hgeneric => .pure ?_
  exact hname.bind fun _ => hsignature.bind fun _ => hgeneric

theorem moves_ofRows (method : Handle) (rows : List VmVariable) (index : Nat) :
    Moves May (ofRows method index rows) fun entries =>
      ∀ entry ∈ entries, Acts May entry.release := by
  induction rows generalizing index with
  | nil => exact Moves.pure (a := []) (by simp)
  | cons row rows ih =>
    unfold ofRows
    refine (moves_ofRow method index row).bind fun entry hentry => ?_
    refine (ih (index + 1)).bind fun entries hentries => .pure ?_
    exact List.forall_mem_cons.mpr ⟨hentry, hentries⟩

theorem acts_releaseAll {entries : List VariableEntry}
    (h : ∀ entry ∈ entries, Acts May entry.release) : Acts May (releaseAll entries) := by
  induction entries with
  | nil => exact Acts.pure _
  | cons entry entries ih =>
    obtain ⟨hentry, hentries⟩ := List.forall_mem_cons.mp h
    exact hentry.bind fun _ => ih hentries

end VariableEntry

theorem VariableTable.lets_ofTable (method : Handle) (table : Table VmVariable) :
    Lets May (do
      let table ← VariableTable.ofTable method table
      pure (VariableTable.held table) : ExceptT ε HostM (Held HostM (List VariableEntry))) := by
  refine Tries.lift_bind (P := fun table => Acts May (release table)) ?_ fun _ hrelease =>
    Tries.pure hrelease
  unfold ofTable
  split
  next => exact .pure (Acts.bind (Acts.pure _) fun _ => Acts.pure _)
  next =>
    refine (VariableEntry.moves_ofRows method table.rows 0).bind fun entries hentries => ?_
    refine (Buffer.moves_ofTable rfl _).mono fun buffer hbuffer => ?_
    -- the rows that are read are some of those that were handed out
    have hall := VariableEntry.acts_releaseAll fun entry hentry =>
      hentries entry (hbuffer.2 entry hentry)
    exact hall.bind fun _ => hbuffer.1

/-! ### Sources that are asked -/

/-- A source of method metadata whose answers about a method are put together from moves. -/
structure Introspector.Telling {κ μ : Type} (May : Call → Prop) (source : Introspector HostM κ μ)
    (method : μ) : Prop where
  modifiers : Tries May (source.modifiers method) fun _ => True
  name : Lets May (source.name method)
  locals : Lets May (source.locals method)
  lines : Lets May (source.lines method)
  report : ∀ event, Acts May (source.report event)

/-- A source of method metadata whose answers are put together from moves. -/
structure Introspector.Acting {κ μ : Type} (May : Call → Prop)
    (source : Introspector HostM κ μ) : Prop where
  methods : ∀ owner, Lets May (source.methods owner)
  telling : ∀ method, source.Telling May method
  sourceFile : ∀ owner, Lets May (source.sourceFile owner)
  report : ∀ event, Acts May (source.report event)

namespace Introspector

variable {κ μ : Type} {source : Introspector HostM κ μ}

namespace Telling

variable {method : μ}

theorem hasName (h : source.Telling May method) (entry : String) :
    Tries May (source.hasName entry method) fun _ => True := h.name.use fun _ => Tries.pure trivial

theorem measure (h : source.Telling May method) (entry : String) :
    Tries May (source.measure entry method) fun _ => True := by
  refine h.locals.use fun scopes => h.lines.use fun rows => ?_
  exact Tries.lift_bind (h.report _) fun _ _ => Tries.pure trivial

theorem candidate (h : source.Telling May method) (entry : String) :
    Tries May (source.candidate entry method) fun _ => True := by
  refine h.modifiers.bind fun modifiers _ => ?_
  split
  next => exact Tries.pure trivial
  next =>
    refine (h.hasName entry).bind fun named _ => ?_
    split
    next => exact h.measure entry
    next => exact Tries.pure trivial

end Telling

namespace Acting

theorem scan (h : source.Acting May) (entry : String) (methods : List μ) :
    Tries May (source.scan entry methods) fun _ => True := by
  induction methods with
  | nil => exact Tries.pure trivial
  | cons method rest ih =>
    rw [scan_cons]
    refine ((h.telling method).candidate entry).bind fun selection _ => ?_
    cases selection with
    | none => exact ih
    | some selection => exact Tries.pure trivial

theorem select (h : source.Acting May) (entry : String) (owner : κ) :
    Tries May (source.select entry owner) fun _ => True :=
  (h.methods owner).use (h.scan entry)

/-- Locating a class is put together from the questions. -/
theorem resolve (h : source.Acting May) (entry : String) (owner : κ) :
    Tries May (source.resolve entry owner) fun _ => True := by
  refine ((h.select entry owner).adapt _).bind fun selection _ => ?_
  cases selection with
  | none => exact Tries.throw _
  | some selection =>
    refine ((h.sourceFile owner).adapt _).use fun name => ?_
    exact Tries.lift_bind (h.report _) fun _ _ => Tries.pure trivial

end Acting

end Introspector

/-! ### The tool interface -/

namespace Tool

/-- A function of the tool interface makes its call and does what its answer does. -/
theorem tries_call {function : ToolFunction} {entry : Call} {answer : Vm → ToolM α}
    {Value : α → Prop} (hentry : May entry) (hanswer : ∀ vm, Tries May (answer vm) Value) :
    Tries May (call function entry answer) Value := by
  unfold call
  refine Tries.look (fun _ => rfl) fun host => ?_
  dsimp only
  split
  next => exact Tries.throw _
  next =>
    refine Tries.lift_bind (Moves.record hentry) fun _ _ => ?_
    split
    next => exact hanswer host.vm
    next => exact Tries.throw _

theorem tries_present_bind {value : Option β} {f : β → ToolM α} {Value : α → Prop}
    (h : ∀ found, Tries May (f found) Value) : Tries May (present value >>= f) Value := by
  cases value with
  | none => exact Tries.throw _
  | some found => exact h found

/-- What is asked about a class is told, or the question fails. -/
theorem tries_askClass {query : Query} {owner : Handle} {answer : VmClass → ToolM α}
    {Value : α → Prop} (hmay : May (.query query owner))
    (h : ∀ entry, Tries May (answer entry) Value) :
    Tries May (askClass query owner answer) Value := by
  refine tries_call hmay fun vm => ?_
  split
  next => exact Tries.throw _
  next entry _ => exact h entry

section methods

variable {query : Query} {method : Handle} {answer : VmMethod → ToolM α} {Value : α → Prop}

/-- What is asked about a method is told, or the question fails. -/
theorem tries_answer (h : ∀ entry, Tries May (answer entry) Value) (vm : Vm) :
    Tries May (match vm.method? method with
      | none => throw Status.invalidMethod
      | some entry =>
        if entry.statusOf query = Status.success then answer entry
        else throw (entry.statusOf query)) Value := by
  split
  next => exact Tries.throw _
  next entry _ =>
    split
    next => exact h entry
    next => exact Tries.throw _

theorem tries_askMethod (hmay : May (.query query method))
    (h : ∀ entry, Tries May (answer entry) Value) :
    Tries May (askMethod query method answer) Value := tries_call hmay (tries_answer h)

end methods

section questions

variable {subject : Handle}

theorem lets_methods (hmay : May (.query .methods subject)) : Lets May (methods subject) :=
  tries_askClass hmay fun entry =>
    (Buffer.lets_ofTable rfl entry.methods).map (List.map VmMethod.id)

theorem tries_modifiers (hmay : May (.query .modifiers subject)) :
    Tries May (modifiers subject) fun _ => True :=
  tries_askMethod hmay fun _ => Tries.pure trivial

theorem lets_name (hmay : May (.query .name subject)) : Lets May (name subject) :=
  tries_askMethod hmay fun entry => Buffer.lets_ofText rfl entry.name

theorem lets_locals (hmay : May (.query .locals subject)) : Lets May (locals subject) :=
  tries_askMethod hmay fun _ => tries_present_bind fun table =>
    VariableTable.lets_ofTable subject table

theorem lets_lines (hmay : May (.query .lines subject)) : Lets May (lines subject) :=
  tries_askMethod hmay fun _ => tries_present_bind fun table => Buffer.lets_ofTable rfl table

theorem lets_sourceFile (hmay : May (.query .sourceFile subject)) : Lets May (sourceFile subject) :=
  tries_askClass hmay fun _ => tries_present_bind fun text => Buffer.lets_ofText rfl text

/-- A machine that is asked about a method answers with moves. -/
theorem introspector_telling (hmay : ∀ query, May (.query query subject)) :
    introspector.Telling May subject where
  modifiers := (tries_modifiers (hmay _)).adapt _
  name := (lets_name (hmay _)).adapt _
  locals := ((lets_locals (hmay _)).map _).adapt _
  lines := (lets_lines (hmay _)).adapt _
  report event := .report event

end questions

/-- A machine that is asked answers with moves. -/
theorem introspector_acting (hmay : ∀ query subject, May (.query query subject)) :
    introspector.Acting May where
  methods owner := (lets_methods (hmay _ owner)).adapt _
  telling method := introspector_telling fun query => hmay query method
  sourceFile owner := (lets_sourceFile (hmay _ owner)).adapt _
  report event := .report event

end Tool

/-! ### Negotiation -/

section negotiation

variable (hmay : ∀ call, call.stage? = some .negotiation → May call)

namespace Tool

include hmay

theorem tries_openEnvironment : Tries May openEnvironment fun _ => True := by
  unfold openEnvironment
  refine Tries.look (fun _ => rfl) fun host => ?_
  refine Tries.lift_bind (Moves.record (hmay _ rfl)) fun _ _ => ?_
  dsimp only
  split
  next => exact Tries.throw _
  next =>
    split
    next => exact Tries.throw _
    next => exact Tries.pure trivial

theorem tries_potentialCapabilities : Tries May potentialCapabilities fun _ => True :=
  tries_call (hmay _ rfl) fun _ => Tries.pure trivial

theorem tries_addCapabilities (wanted : CapabilitySet) :
    Tries May (addCapabilities wanted) fun _ => True :=
  tries_call (hmay _ rfl) fun _ => Tries.lift (Moves.add wanted)

theorem tries_capabilities : Tries May capabilities fun _ => True :=
  tries_call (hmay _ rfl) fun _ => Tries.look (fun _ => rfl) fun _ => Tries.pure trivial

end Tool

namespace Negotiation

/-- Step by step, a negotiation goes on only after a step that did not fail. -/
theorem run_bind (x : OptionT HostM α) (f : α → OptionT HostM β) (host : Host) :
    (x >>= f).run.run host = match x.run.run host with
      | (some a, mid) => (f a).run.run mid
      | (none, mid) => (none, mid) := by
  rw [OptionT.run_bind, Option.elimM, StateT.run_bind]
  generalize x.run.run host = run
  obtain ⟨outcome, mid⟩ := run
  cases outcome with
  | none => rfl
  | some a => rfl

/-- A step of the negotiation, and what is done about its failure. -/
theorem run_attempt (name : String) (step : ToolM α) (host : Host) :
    (attempt name step).run.run host = match step.run.run host with
      | (.ok value, mid) => (some value, mid)
      | (.error status, mid) => (none, ((warnFailed name status).run mid).2) := by
  unfold attempt
  rw [OptionT.run_mk, StateT.run_bind]
  generalize step.run.run host = run
  obtain ⟨outcome, mid⟩ := run
  cases outcome with
  | ok value => rfl
  | error status => rfl

/-- The function of a step is not there, or it fails, and then this is warned of; or it succeeds,
and the negotiation goes on with the answer. -/
theorem run_attempt_bind_cases {name : String} {function : ToolFunction} {entry : Call}
    {answer : Vm → ToolM α} {host mid : Host} {a : α}
    (hanswer : (answer host.vm).run.run (host.entered entry) = (.ok a, mid))
    (f : α → OptionT HostM β) :
    (function ∈ host.vm.missing ∧
      (attempt name (Tool.call function entry answer) >>= f).run.run host =
        (none, ((warnFailed name Status.notAvailable).run host).2)) ∨
    (function ∉ host.vm.missing ∧ host.vm.statusOf function ≠ Status.success ∧
      (attempt name (Tool.call function entry answer) >>= f).run.run host =
        (none, ((warnFailed name (host.vm.statusOf function)).run (host.entered entry)).2)) ∨
    (function ∉ host.vm.missing ∧ host.vm.statusOf function = Status.success ∧
      (attempt name (Tool.call function entry answer) >>= f).run.run host =
        (f a).run.run mid) := by
  rw [run_bind, run_attempt, Tool.run_call]
  by_cases hmissing : function ∈ host.vm.missing
  · exact .inl ⟨hmissing, by rw [if_pos hmissing]⟩
  rw [if_neg hmissing]
  by_cases hsuccess : host.vm.statusOf function = Status.success
  · refine .inr (.inr ⟨hmissing, hsuccess, ?_⟩)
    rw [if_pos hsuccess, hanswer]
  · exact .inr (.inl ⟨hmissing, hsuccess, by rw [if_neg hsuccess]⟩)

/-- A negotiation goes on only after a step that did not fail. -/
theorem acts_run_bind {x : OptionT HostM α} {f : α → OptionT HostM β} (h : Acts May x.run)
    (hf : ∀ a, Acts May (f a).run) : Acts May (x >>= f).run := by
  rw [OptionT.run_bind]
  refine h.bind fun outcome => ?_
  cases outcome with
  | none => exact Acts.pure _
  | some a => exact hf a

theorem acts_accept (granted : CapabilitySet) : Acts May (accept granted).run := by
  unfold accept
  rw [OptionT.run_mk]
  split
  next => exact Acts.bind (.report _) fun _ => Acts.pure _
  next => exact Acts.bind (.report _) fun _ => Acts.pure _

include hmay in
theorem acts_openEnvironment : Acts May openEnvironment.run := by
  refine (Tool.tries_openEnvironment hmay).acts.bind fun outcome => ?_
  cases outcome with
  | ok value => exact Acts.pure _
  | error code => exact Acts.bind (.report _) fun _ => Acts.pure _

theorem acts_attempt (hname : ∀ status, May (.getErrorName status)) (function : String)
    {step : ToolM α} (h : Tries May step fun _ => True) : Acts May (attempt function step).run := by
  refine h.acts.bind fun outcome => ?_
  cases outcome with
  | ok value => exact Acts.pure _
  | error status => exact Acts.bind (.reportName (hname status) .warn _) fun _ => Acts.pure _

end Negotiation

include hmay in
/-- The negotiation is put together from its calls, and may ask for the names of statuses. -/
theorem acts_negotiate (hname : ∀ status, May (.getErrorName status)) (reachable : Bool) :
    Acts May (negotiate reachable) := by
  unfold negotiate
  split
  next =>
    have hpotential := Negotiation.acts_attempt hname "GetPotentialCapabilities"
      (Tool.tries_potentialCapabilities hmay)
    have hadd := fun potential => Negotiation.acts_attempt hname "AddCapabilities"
      (Tool.tries_addCapabilities hmay potential)
    have hgranted := Negotiation.acts_attempt hname "GetCapabilities" (Tool.tries_capabilities hmay)
    refine Negotiation.acts_run_bind (Negotiation.acts_openEnvironment hmay) fun _ => ?_
    refine Negotiation.acts_run_bind hpotential fun potential => ?_
    refine Negotiation.acts_run_bind (hadd potential) fun _ => ?_
    exact Negotiation.acts_run_bind hgranted Negotiation.acts_accept
  next => exact Acts.bind (.report _) fun _ => Acts.pure _

end negotiation
end ClosureSpan
