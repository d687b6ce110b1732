import ClosureSpan.Proofs.Scan.Hull
import ClosureSpan.Proofs.Text.Canonical
import ClosureSpan.Proofs.Vm.Serving
import ClosureSpan.Proofs.Vm.Stages
import ClosureSpan.Session.Resolver

/-!
# What is done in each stage

The four stages of a resolver are told one by one: which calls each makes, and what it gives.

## Main definitions

* `Follows` — an outcome and the calls that lead to it, in the order of a protocol.
* `Negotiation.protocol`, `Binding.protocol` — the calls of a stage that succeeds.
* `Vm.binding?`, `Vm.sourceFile?` — what is looked up and asked for, in terms of the machine.
* `Inspects` — a computation that only inspects, and what it gives.

## Main results

* `runs_negotiate` — the calls of the negotiation.
* `Binding.runs_lookUp` — the calls and the outcome of the look-up of the result class.
* `Tool.runs_resolve` — **a location has the lines of a span and the name that was asked for.**
* `Binding.runs_construct` — **only a null stops the construction of a result.**
-/

namespace ClosureSpan

variable {ε α β : Type} {stage : Stage} {vm : Vm}

/-! ### Protocols -/

/-- The calls of the stage begin a protocol.  If there is a value, they are all of it. -/
def Follows (protocol : List Call) (Value : α → Prop) (outcome : Option α)
    (made : List Call) : Prop :=
  made <+: protocol ∧ ∀ a, outcome = some a → made = protocol ∧ Value a

namespace Follows

variable {protocol rest made more : List Call} {Value : α → Prop} {After : β → Prop}

theorem none (h : made <+: protocol) : Follows protocol Value none made := ⟨h, nofun⟩

theorem some {a : α} (h : Value a) : Follows protocol Value (some a) protocol := by
  refine ⟨List.prefix_refl _, ?_⟩
  intro b hb
  cases hb
  exact ⟨rfl, h⟩

/-- The protocol begins with what was done before. -/
theorem append {outcome : Option β} (h : Follows rest After outcome more) :
    Follows (protocol ++ rest) After outcome (protocol ++ more) := by
  refine ⟨(List.prefix_append_right_inj protocol).mpr h.1, ?_⟩
  intro b hb
  have hmore := h.2 b hb
  rw [hmore.1]
  exact ⟨rfl, hmore.2⟩

end Follows

/-- One protocol is followed after the other, as long as there are values. -/
theorem Runs.follows_bind {protocol rest : List Call} {Value : α → Prop} {After : β → Prop}
    {x : HostM (Option α)} {f : Option α → HostM (Option β)}
    (h : Runs stage vm x (Follows protocol Value))
    (hnone : Runs stage vm (f none) fun outcome more => outcome = none ∧ more = [])
    (hf : ∀ a, Value a → Runs stage vm (f (some a)) (Follows rest After)) :
    Runs stage vm (x >>= f) (Follows (protocol ++ rest) After) := by
  refine h.bind ?_
  intro outcome made hmade
  cases outcome with
  | none =>
    refine hnone.mono ?_
    rintro _ _ ⟨rfl, rfl⟩
    rw [List.append_nil]
    exact .none (hmade.1.trans (List.prefix_append _ _))
  | some a =>
    obtain ⟨rfl, hvalue⟩ := hmade.2 a rfl
    exact (hf a hvalue).mono fun _ _ hmore => hmore.append

/-! ### Negotiation -/

/-- Asking for the name of a status belongs to no stage. -/
theorem Tool.aside_errorName (status : Status) : Aside vm (errorName status) := by
  intro stage
  have hbuffer : Runs stage vm (errorNameBuffer status).run fun outcome made =>
      made = [] ∧ ∀ held, outcome = .ok held → Aside vm held.release := by
    refine runs_call nofun (fun _ _ _ => rfl) ⟨rfl, nofun⟩ ⟨rfl, nofun⟩ ?_
    split
    next => exact Runs.pure ⟨rfl, nofun⟩
    next text _ =>
      refine Runs.lift_bind (Buffer.aside_ofText _ text stage) ?_
      rintro buffer _ rfl
      refine Runs.pure ⟨rfl, ?_⟩
      rintro _ ⟨⟩
      exact buffer.aside_release
  have hname : Runs stage vm (Held.use (errorNameBuffer status) fun name =>
      (Pure.pure (ModifiedUtf8.decode name) : ToolM String)).run fun _ made => made = [] := by
    refine hbuffer.use (fun _ _ h => h.1) (fun held _ h => h.2 held rfl) ?_
    rintro held _ ⟨rfl, -⟩
    exact Runs.pure rfl
  refine hname.bind ?_
  rintro outcome _ rfl
  cases outcome with
  | ok text => exact Runs.pure rfl
  | error status => exact Runs.pure rfl

namespace Negotiation

/-- The calls of a negotiation that comes to an end. -/
def protocol (potential : CapabilitySet) : List Call :=
  [.getEnvironment Tool.version, .getPotentialCapabilities, .addCapabilities potential,
    .getCapabilities]

theorem aside_warnFailed (function : String) (status : Status) :
    Aside vm (warnFailed function status) :=
  Aside.reportFrom ((Tool.aside_errorName status).bind fun _ => Aside.pure _)

/-- A negotiation goes on only after a step that did not fail. -/
theorem runs_bind {protocol rest : List Call} {Value : α → Prop} {After : β → Prop}
    {x : OptionT HostM α} {f : α → OptionT HostM β}
    (h : Runs stage vm x.run (Follows protocol Value))
    (hf : ∀ a, Value a → Runs stage vm (f a).run (Follows rest After)) :
    Runs stage vm (x >>= f).run (Follows (protocol ++ rest) After) := by
  rw [OptionT.run_bind]
  exact h.follows_bind (Runs.pure ⟨rfl, rfl⟩) hf

/-- A step makes its call, unless the function is not there. -/
theorem runs_attempt (name : String) {function : ToolFunction} {entry : Call}
    {answer : Vm → ToolM α} {Value : α → Prop} (hentry : entry.stage? = some .negotiation)
    (hblind : ∀ vm result null, answer (vm.reached result null) = answer vm)
    (hanswer : Runs .negotiation vm (answer vm).run fun outcome more =>
      more = [] ∧ ∀ a, outcome = .ok a → Value a) :
    Runs .negotiation vm (attempt name (Tool.call function entry answer)).run
      (Follows [entry] Value) := by
  have hselect : Stage.negotiation.select [entry] = [entry] := Stage.select_own hentry
  have hcall : Runs .negotiation vm (Tool.call function entry answer).run fun outcome made =>
      made <+: [entry] ∧ ∀ a, outcome = .ok a → made = [entry] ∧ Value a := by
    refine Tool.runs_call ?_ hblind ⟨List.nil_prefix, nofun⟩ ⟨?_, nofun⟩ ?_
    · intro other hother
      exact Option.some.inj (hother.symm.trans hentry)
    · exact ⟨[], by rw [hselect, List.append_nil]⟩
    · refine hanswer.mono ?_
      rintro outcome _ ⟨rfl, hvalue⟩
      rw [hselect, List.append_nil]
      exact ⟨List.prefix_refl _, fun a ha => ⟨rfl, hvalue a ha⟩⟩
  refine hcall.bind ?_
  intro outcome made hmade
  cases outcome with
  | ok value =>
    obtain ⟨rfl, hvalue⟩ := hmade.2 value rfl
    exact Runs.pure (.some hvalue)
  | error status =>
    refine Runs.aside_bind (aside_warnFailed name status) fun _ => Runs.pure ?_
    rw [List.append_nil]
    exact .none hmade.1

theorem runs_openEnvironment :
    Runs .negotiation vm openEnvironment.run
      (Follows [.getEnvironment Tool.version] fun _ => True) := by
  have hopen : Runs .negotiation vm Tool.openEnvironment.run fun _ made =>
      made = [.getEnvironment Tool.version] := by
    refine Runs.getThe_bind (fun _ _ _ => rfl) fun host _ => ?_
    refine Runs.lift_bind (Runs.record_own rfl) ?_
    rintro _ _ rfl
    dsimp only
    split
    next => exact Runs.pure rfl
    next =>
      split
      next => exact Runs.pure rfl
      next => exact Runs.pure rfl
  refine hopen.bind ?_
  rintro outcome _ rfl
  cases outcome with
  | ok value => exact Runs.pure (.some trivial)
  | error code =>
    exact Runs.aside_bind (Aside.report _) fun _ => Runs.pure (.none (List.prefix_refl _))

/-- Accepting makes no call. -/
theorem runs_accept (granted : CapabilitySet) :
    Runs .negotiation vm (accept granted).run (Follows [] fun _ => True) := by
  unfold accept
  rw [OptionT.run_mk]
  split
  next => exact Runs.aside_bind (Aside.report _) fun _ => Runs.pure (.some trivial)
  next =>
    exact Runs.aside_bind (Aside.report _) fun _ => Runs.pure (.none (List.prefix_refl _))

end Negotiation

/-- The negotiation follows its protocol as far as it comes. -/
theorem runs_negotiate (reachable : Bool) :
    Runs .negotiation vm (negotiate reachable) fun _ made =>
      made <+: Negotiation.protocol vm.potential := by
  unfold negotiate
  split
  next =>
    have hpotential : Runs .negotiation vm
        (Negotiation.attempt "GetPotentialCapabilities" Tool.potentialCapabilities).run
        (Follows [.getPotentialCapabilities] fun potential => potential = vm.potential) := by
      refine Negotiation.runs_attempt _ rfl (fun _ _ _ => rfl) (Runs.pure ⟨rfl, ?_⟩)
      rintro _ ⟨⟩
      rfl
    have hadd : Runs .negotiation vm
        (Negotiation.attempt "AddCapabilities" (Tool.addCapabilities vm.potential)).run
        (Follows [.addCapabilities vm.potential] fun _ => True) := by
      refine Negotiation.runs_attempt _ rfl (fun _ _ _ => rfl) ?_
      have hmodify : Aside vm (modify fun host : Host =>
          { host with added := host.added ||| vm.potential } : HostM Unit) :=
        Aside.modifyGet (fun _ _ _ => rfl) (fun _ => rfl) fun _ => rfl
      refine Runs.aside_bind hmodify fun _ => Runs.pure ⟨rfl, fun _ _ => trivial⟩
    have hgranted : Runs .negotiation vm
        (Negotiation.attempt "GetCapabilities" Tool.capabilities).run
        (Follows [.getCapabilities] fun _ => True) := by
      refine Negotiation.runs_attempt _ rfl (fun _ _ _ => rfl) ?_
      exact Runs.getThe_bind (fun _ _ _ => rfl) fun _ _ => Runs.pure ⟨rfl, fun _ _ => trivial⟩
    suffices hall : Runs .negotiation vm _
        (Follows (Negotiation.protocol vm.potential) fun _ => True) from
      hall.mono fun _ _ hmade => hmade.1
    refine Negotiation.runs_bind Negotiation.runs_openEnvironment fun _ _ => ?_
    refine Negotiation.runs_bind hpotential ?_
    rintro _ rfl
    refine Negotiation.runs_bind hadd fun _ _ => ?_
    exact Negotiation.runs_bind hgranted fun granted _ => Negotiation.runs_accept granted
  next =>
    exact Runs.aside_bind (Aside.report _) fun _ => Runs.pure List.nil_prefix

/-! ### Binding -/

/-- The result class that the machine lets be bound: its name can be passed, and class, constructor
and reference are not null. -/
def Vm.binding? (vm : Vm) (className : String) : Option Binding :=
  if 0 ∉ utf8 className ∧ vm.handles.foundClass ≠ 0 ∧ vm.handles.foundMethod ≠ 0 ∧
      vm.handles.globalRef ≠ 0 then
    some ⟨vm.handles.globalRef, vm.handles.foundMethod⟩
  else
    none

namespace Binding

/-- The calls of a look-up that comes to an end. -/
def protocol (className : String) (found : Handle) : List Call :=
  [.findClass (utf8 className),
    .getMethodId found (utf8 "<init>") (utf8 resultConstructorSignature), .newGlobalRef found]

theorem runs_findClass {name : String} (h : 0 ∉ utf8 name) :
    Runs .binding vm (Native.findClass name) fun found made =>
      found = vm.handles.foundClass.nonNull? ∧ made = [.findClass (utf8 name)] := by
  unfold Native.findClass
  rw [Native.terminated?_of_notMem h]
  exact Native.runs_record_answered rfl (fun vm => vm.handles.foundClass) fun _ _ _ => rfl

theorem runs_constructor (owner : Handle) :
    Runs .binding vm (Native.methodId owner "<init>" resultConstructorSignature) fun found made =>
      found = vm.handles.foundMethod.nonNull? ∧
        made = [.getMethodId owner (utf8 "<init>") (utf8 resultConstructorSignature)] := by
  unfold Native.methodId
  rw [Native.terminated?_of_notMem (by decide +kernel),
    Native.terminated?_of_notMem (by decide +kernel)]
  exact Native.runs_record_answered rfl (fun vm => vm.handles.foundMethod) fun _ _ _ => rfl

theorem runs_newGlobalRef (object : Handle) :
    Runs .binding vm (Native.newGlobalRef object) fun result made =>
      result = vm.handles.globalRef.nonNull? ∧ made = [.newGlobalRef object] :=
  Native.runs_record_answered rfl (fun vm => vm.handles.globalRef) fun _ _ _ => rfl

/-- A look-up that is given up has begun its protocol. -/
theorem runs_giveUp (event : Event) {Made : Option Binding → List Call → Prop}
    (h : Made none []) : Runs stage vm (giveUp event) Made := by
  refine Runs.aside_bind Native.aside_clearPendingException fun _ => ?_
  exact Runs.aside_bind (Aside.report event) fun _ => Runs.pure h

/-- The outcome depends on constructor and reference, and they are asked for in this order. -/
theorem runs_ofClass (className : String) (found : Handle) :
    Runs .binding vm (ofClass className found) fun result made =>
      result = (if vm.handles.foundMethod ≠ 0 ∧ vm.handles.globalRef ≠ 0 then
        some ⟨vm.handles.globalRef, vm.handles.foundMethod⟩ else none) ∧
      made <+: [.getMethodId found (utf8 "<init>") (utf8 resultConstructorSignature),
        .newGlobalRef found] := by
  refine (runs_constructor found).bind ?_
  rintro _ _ ⟨rfl, rfl⟩
  by_cases hmethod : vm.handles.foundMethod = 0
  · rw [hmethod, Handle.nonNull?_zero]
    exact runs_giveUp _ ⟨by simp, by simp⟩
  rw [Handle.nonNull?_of_ne hmethod]
  refine (runs_newGlobalRef found).bind ?_
  rintro _ _ ⟨rfl, rfl⟩
  by_cases href : vm.handles.globalRef = 0
  · rw [href, Handle.nonNull?_zero]
    exact runs_giveUp _ ⟨by simp, by simp⟩
  rw [Handle.nonNull?_of_ne href]
  refine Runs.aside_bind (Aside.report _) fun _ => Runs.pure ?_
  exact ⟨(if_pos ⟨hmethod, href⟩).symm, List.prefix_refl _⟩

/-- The look-up gives what the machine lets be bound, and follows its protocol as far as it
comes.  It begins, unless the name cannot be passed. -/
theorem runs_lookUp (vm : Vm) (className : String) :
    Runs .binding vm (lookUp className) fun result made =>
      (result = vm.binding? className ∧ made <+: protocol className vm.handles.foundClass) ∧
        (made = [] ↔ 0 ∈ utf8 className) := by
  unfold lookUp Vm.binding?
  by_cases hname : 0 ∈ utf8 className
  · -- a name with a zero byte cannot be passed, so no call is made
    have hfind : Native.findClass className = Pure.pure none := by
      unfold Native.findClass
      rw [Native.terminated?_of_mem hname]
    rw [hfind, pure_bind]
    exact runs_giveUp _ ⟨⟨by simp [hname], List.nil_prefix⟩, iff_of_true rfl hname⟩
  refine (runs_findClass hname).bind ?_
  rintro _ _ ⟨rfl, rfl⟩
  have hbegun : ∀ more : List Call,
      [.findClass (utf8 className)] ++ more = [] ↔ 0 ∈ utf8 className :=
    fun more => iff_of_false (List.cons_ne_nil _ _) hname
  by_cases hclass : vm.handles.foundClass = 0
  · rw [hclass, Handle.nonNull?_zero]
    exact runs_giveUp _ ⟨⟨by simp, by simp [protocol]⟩, hbegun []⟩
  rw [Handle.nonNull?_of_ne hclass]
  refine (Native.runs_withLocalRef (runs_ofClass className _)).mono ?_
  rintro _ more ⟨rfl, hmore⟩
  refine ⟨⟨by simp [hname, hclass], ?_⟩, hbegun more⟩
  exact (List.prefix_append_right_inj [_]).mpr hmore

end Binding

/-! ### Inspection -/

/-- Reading a failure in other words leaves the values as they are. -/
theorem Runs.adapt_ok {ε' : Type} {x : ExceptT ε HostM α} {Value : α → List Call → Prop}
    (h : Runs stage vm x.run fun outcome made => ∀ a, outcome = .ok a → Value a made)
    (f : ε → ε') :
    Runs stage vm (x.adapt f).run fun outcome made =>
      (∀ e', outcome = .error e' → ∃ e, e' = f e) ∧ ∀ a, outcome = .ok a → Value a made := by
  refine h.adapt ?_
  intro outcome made hvalue
  cases outcome with
  | ok a =>
    refine ⟨nofun, ?_⟩
    rintro _ ⟨⟩
    exact hvalue a rfl
  | error e =>
    refine ⟨?_, nofun⟩
    rintro _ ⟨⟩
    exact ⟨e, rfl⟩

/-- A computation that only inspects, and gives values of this kind. -/
def Inspects (vm : Vm) (x : ExceptT ε HostM α) (Value : α → Prop) : Prop :=
  Runs .inspection vm x.run fun outcome _ => ∀ a, outcome = .ok a → Value a

/-- A question for a value that has to be given back. -/
def InspectsHeld (vm : Vm) (x : ExceptT ε HostM (Held HostM α)) : Prop :=
  Inspects vm x fun held => Aside vm held.release

namespace Inspects

variable {Value : α → Prop} {After : β → Prop} {x : ExceptT ε HostM α}

theorem pure {a : α} (h : Value a) : Inspects vm (pure a : ExceptT ε HostM α) Value := by
  refine Runs.pure ?_
  rintro _ ⟨⟩
  exact h

theorem throw (e : ε) : Inspects vm (throw e : ExceptT ε HostM α) Value := Runs.pure nofun

theorem bind {f : α → ExceptT ε HostM β} (h : Inspects vm x Value)
    (hf : ∀ a, Value a → Inspects vm (f a) After) : Inspects vm (x >>= f) After :=
  h.except_bind (fun _ _ _ => nofun) fun a _ ha => hf a (ha a rfl)

/-- First house is kept. -/
theorem lift_bind {y : HostM β} {f : β → ExceptT ε HostM α} (h : Aside vm y)
    (hf : ∀ b, Inspects vm (f b) Value) :
    Inspects vm ((liftM y : ExceptT ε HostM β) >>= f) Value :=
  Runs.lift_bind (h .inspection) fun b _ _ => hf b

theorem adapt {ε' : Type} (h : Inspects vm x Value) (f : ε → ε') :
    Inspects vm (x.adapt f) Value := (Runs.adapt_ok h f).mono fun _ _ hvalue => hvalue.2

theorem map {f : α → β} (h : Inspects vm x Value) (hf : ∀ a, Value a → After (f a)) :
    Inspects vm (f <$> x) After := by
  rw [← bind_pure_comp]
  exact h.bind fun a ha => pure (hf a ha)

end Inspects

theorem InspectsHeld.use {x : ExceptT ε HostM (Held HostM α)} {f : α → ExceptT ε HostM β}
    {After : β → Prop} (h : InspectsHeld vm x) (hf : ∀ a, Inspects vm (f a) After) :
    Inspects vm (Held.use x f) After :=
  Runs.use h (fun _ _ _ => nofun) (fun held _ hheld => hheld held rfl) fun held _ _ => hf held.value

namespace Tool

/-- A question is answered, refused, or cannot be put. -/
theorem inspects_call {function : ToolFunction} {entry : Call} {answer : Vm → ToolM α}
    {Value : α → Prop} (hentry : entry.stage? = some .inspection)
    (hblind : ∀ vm result null, answer (vm.reached result null) = answer vm)
    (hanswer : Inspects vm (answer vm) Value) :
    Inspects vm (call function entry answer) Value := by
  refine runs_call ?_ hblind nofun nofun hanswer
  intro other hother
  exact Option.some.inj (hother.symm.trans hentry)

theorem inspects_askClass {query : Query} {owner : Handle} {answer : VmClass → ToolM α}
    {Value : α → Prop} (h : ∀ entry, Inspects vm (answer entry) Value) :
    Inspects vm (askClass query owner answer) Value := by
  refine inspects_call rfl (fun _ _ _ => rfl) ?_
  split
  next => exact Inspects.throw _
  next entry _ => exact h entry

theorem inspects_askMethod {query : Query} {method : Handle} {answer : VmMethod → ToolM α}
    {Value : α → Prop} (h : ∀ entry, Inspects vm (answer entry) Value) :
    Inspects vm (askMethod query method answer) Value := by
  refine inspects_call rfl (fun _ _ _ => rfl) ?_
  split
  next => exact Inspects.throw _
  next entry _ =>
    split
    next => exact h entry
    next => exact Inspects.throw _

/-- Information that is lacking ends a question. -/
theorem inspects_present_bind {value : Option β} {f : β → ToolM α} {Value : α → Prop}
    (h : ∀ found, Inspects vm (f found) Value) : Inspects vm (present value >>= f) Value := by
  cases value with
  | none => exact Inspects.throw _
  | some found => exact h found

theorem inspects_methods (owner : Handle) : InspectsHeld vm (methods owner) := by
  refine inspects_askClass fun entry => ?_
  refine Inspects.lift_bind (Buffer.aside_ofTable _ entry.methods) fun buffer => ?_
  exact Inspects.pure buffer.aside_release

theorem inspects_modifiers (method : Handle) : Inspects vm (modifiers method) fun _ => True :=
  inspects_askMethod fun _ => Inspects.pure trivial

theorem inspects_name (method : Handle) : InspectsHeld vm (name method) := by
  refine inspects_askMethod fun entry => ?_
  refine Inspects.lift_bind (Buffer.aside_ofText _ entry.name) fun buffer => ?_
  exact Inspects.pure buffer.aside_release

theorem inspects_locals (method : Handle) : InspectsHeld vm (locals method) := by
  refine inspects_askMethod fun _ => inspects_present_bind fun table => ?_
  refine Inspects.lift_bind (VariableTable.aside_ofTable method table) fun buffer => ?_
  exact Inspects.pure (VariableTable.aside_release buffer)

theorem inspects_lines (method : Handle) : InspectsHeld vm (lines method) := by
  refine inspects_askMethod fun _ => inspects_present_bind fun table => ?_
  refine Inspects.lift_bind (Buffer.aside_ofTable _ table) fun buffer => ?_
  exact Inspects.pure buffer.aside_release

end Tool

/-- The bytes that the machine gives for the source file of a class.  A null text reads as
empty. -/
def Vm.sourceFile? (vm : Vm) (owner : Handle) : Option Bytes :=
  (vm.class? owner).bind fun entry => entry.sourceFile.map fun text => text.getD []

/-- The source file is asked for with one call, and given as the machine has it. -/
theorem Tool.runs_sourceFile (vm : Vm) (owner : Handle) :
    Runs .inspection vm (sourceFile owner).run fun outcome made => ∀ held, outcome = .ok held →
      made = [.query .sourceFile owner] ∧ vm.sourceFile? owner = some held.value ∧
        Aside vm held.release := by
  unfold sourceFile askClass
  refine runs_call ?_ (fun _ _ _ => rfl) nofun nofun ?_
  · intro other hother
    cases hother
    rfl
  cases hclass : vm.class? owner with
  | none => exact Runs.pure nofun
  | some entry =>
    dsimp only
    cases hfile : entry.sourceFile with
    | none => exact Runs.pure nofun
    | some text =>
      rw [Tool.present_some_bind]
      have htext : Runs .inspection vm (Buffer.ofText (.sourceFile owner) text) fun buffer made =>
          made = [] ∧ buffer.contents = text.getD [] :=
        (Buffer.aside_ofText _ text .inspection).gives (Buffer.gives_ofText _ text)
      refine Runs.lift_bind htext ?_
      rintro buffer _ ⟨rfl, hcontents⟩
      refine Runs.pure ?_
      rintro _ ⟨⟩
      refine ⟨rfl, ?_, buffer.aside_release⟩
      rw [Vm.sourceFile?, hclass, Option.bind_some, hfile, Option.map_some, ← hcontents]
      rfl

/-! ### Locations -/

/-- The lines are numbered from one on, and they are in order. -/
def LineSpan.Proper (span : LineSpan) : Prop := 0 < span.first ∧ span.first ≤ span.last

/-- A selection, if there is one, has proper lines. -/
def ProperSelection (selection : Option (Selection Handle)) : Prop :=
  ∀ found, selection = some found → found.span.Proper

theorem ProperSelection.none : ProperSelection none := nofun

namespace Tool

theorem inspects_hasName (entry : String) (method : Handle) :
    Inspects vm (introspector.hasName entry method) fun _ => True :=
  InspectsHeld.use ((inspects_name method).adapt _) fun _ => Inspects.pure trivial

theorem inspects_measure (entry : String) (method : Handle) :
    Inspects vm (introspector.measure entry method) ProperSelection := by
  have hlocals : InspectsHeld vm (introspector.locals method) :=
    Inspects.adapt (Inspects.map (f := Held.map _) (inspects_locals method) fun _ h => h) _
  have hlines : InspectsHeld vm (introspector.lines method) := (inspects_lines method).adapt _
  refine hlocals.use fun scopes => hlines.use fun rows => ?_
  refine Inspects.lift_bind (Aside.report _) fun _ => Inspects.pure ?_
  intro found hfound
  obtain ⟨span, hspan, rfl⟩ := Option.map_eq_some_iff.mp hfound
  exact ordered_of_analyze hspan

theorem inspects_candidate (entry : String) (method : Handle) :
    Inspects vm (introspector.candidate entry method) ProperSelection := by
  have hmodifiers : Inspects vm (introspector.modifiers method) fun _ => True :=
    (inspects_modifiers method).adapt _
  refine hmodifiers.bind fun modifiers _ => ?_
  split
  next => exact Inspects.pure .none
  next =>
    refine (inspects_hasName entry method).bind fun named _ => ?_
    split
    next => exact inspects_measure entry method
    next => exact Inspects.pure .none

theorem inspects_scan (entry : String) (methods : List Handle) :
    Inspects vm (introspector.scan entry methods) ProperSelection := by
  induction methods with
  | nil => exact Inspects.pure .none
  | cons method rest ih =>
    rw [Introspector.scan_cons]
    refine (inspects_candidate entry method).bind fun selection hselection => ?_
    cases selection with
    | none => exact ih
    | some selection => exact Inspects.pure hselection

theorem inspects_select (entry : String) (owner : Handle) :
    Inspects vm (introspector.select entry owner) ProperSelection :=
  InspectsHeld.use ((inspects_methods owner).adapt _) (inspects_scan entry)

end Tool

/-- The stage in which the error arises. -/
def ResolveError.raisedIn : ResolveError → Stage
  | capabilityUnavailable => .negotiation
  | bindingUnavailable => .binding
  | introspection _ | noResolvableMethod _ => .inspection
  | resultConstruction => .construction

/-- What comes out of the inspection of a class: an error of this stage, or a location with proper
lines and the name that the machine gives when it is asked for the source file. -/
def Inspected (vm : Vm) (owner : Handle) : Except ResolveError Location → List Call → Prop
  | .error e, _ => e.raisedIn = .inspection
  | .ok location, made => (0 < location.startLine ∧ location.startLine ≤ location.endLine) ∧
      .query .sourceFile owner ∈ made ∧ ∃ name, vm.sourceFile? owner = some name ∧
        location.sourceFile = ModifiedUtf8.decode name

/-- **A location has the lines of a span and the name that was asked for.** -/
theorem Tool.runs_resolve (vm : Vm) (entry : String) (owner : Handle) :
    Runs .inspection vm (introspector.resolve entry owner).run (Inspected vm owner) := by
  have hraised : ∀ e, (∃ cause, e = ResolveError.introspection cause) →
      e.raisedIn = .inspection := by
    rintro _ ⟨cause, rfl⟩
    rfl
  have hscan : Inspects vm (introspector.select entry owner) ProperSelection :=
    inspects_select entry owner
  have hselect := Runs.adapt_ok hscan ResolveError.introspection
  refine hselect.except_bind (fun e _ he => hraised e (he.1 e rfl)) ?_
  intro selection before hfound
  have hproper := hfound.2 selection rfl
  -- the source file is asked for only if there is a selection
  cases selection with
  | none => exact Runs.pure rfl
  | some selection =>
    have hasked := (runs_sourceFile vm owner).adapt_ok (QueryError.ofStatus .sourceFile)
    have hfile := (hasked.mono fun _ _ h => h.2).adapt_ok ResolveError.introspection
    refine hfile.use (fun e _ he => hraised e (he.1 e rfl))
      (fun held _ hheld => (hheld.2 held rfl).2.2) ?_
    intro held made hheld
    obtain ⟨rfl, hname, -⟩ := hheld.2 held rfl
    refine Runs.lift_bind (Aside.report _ .inspection) ?_
    rintro _ _ rfl
    refine Runs.pure ?_
    refine ⟨hproper selection rfl, ?_, held.value, hname, rfl⟩
    simp

/-! ### Construction -/

namespace Binding

/-- The calls of a construction.  Without a string no object is made. -/
def constructionCalls (binding : Binding) (location : Location) (handles : Handles) : List Call :=
  .newString (ModifiedUtf8.encode location.sourceFile) ::
    if handles.newString = 0 then []
    else [.newObject binding.owner binding.constructor handles.newString location.startLine
      location.endLine]

/-- **Only a null stops the construction of a result.**  The name of the source file can always be
passed, since it has no zero byte once it is encoded. -/
theorem runs_construct (vm : Vm) (binding : Binding) (location : Location) :
    Runs .construction vm (binding.construct location) fun object made =>
      object = (if vm.handles.newString = 0 then none else vm.handles.newObject.nonNull?) ∧
        made = binding.constructionCalls location vm.handles := by
  have hstring : Runs .construction vm (Native.newString location.sourceFile) fun text made =>
      text = vm.handles.newString.nonNull? ∧
        made = [.newString (ModifiedUtf8.encode location.sourceFile)] := by
    unfold Native.newString
    rw [Native.terminated?_of_notMem (ModifiedUtf8.zero_notMem_encode _)]
    exact Native.runs_record_answered rfl (fun vm => vm.handles.newString) fun _ _ _ => rfl
  unfold constructionCalls
  refine hstring.bind ?_
  rintro _ _ ⟨rfl, rfl⟩
  by_cases htext : vm.handles.newString = 0
  · rw [htext, Handle.nonNull?_zero]
    exact Runs.pure ⟨rfl, rfl⟩
  rw [Handle.nonNull?_of_ne htext, if_neg htext, if_neg htext]
  refine Native.runs_withLocalRef ?_
  have hobject : Runs .construction vm (Native.newObject binding.owner binding.constructor
      vm.handles.newString location.startLine location.endLine) fun object made =>
        object = vm.handles.newObject.nonNull? ∧
          made = [.newObject binding.owner binding.constructor vm.handles.newString
            location.startLine location.endLine] :=
    Native.runs_record_answered rfl (fun vm => vm.handles.newObject) fun _ _ _ => rfl
  refine hobject.bind ?_
  rintro object _ ⟨rfl, rfl⟩
  split
  next =>
    exact Runs.aside_bind Native.aside_clearPendingException fun _ => Runs.pure ⟨rfl, rfl⟩
  next => exact Runs.pure ⟨rfl, rfl⟩

end Binding
end ClosureSpan
