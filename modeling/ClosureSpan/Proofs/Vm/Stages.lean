import ClosureSpan.Proofs.Vm.Agreement
import ClosureSpan.Vm.ToolInterface
import ClosureSpan.Vm.NativeInterface

/-!
# The calls of a stage

A resolver works in stages: it negotiates, binds its result class, inspects a class and constructs
a result.  Most calls belong to one of the stages, and the others keep house: they give memory and
references back, and look after exceptions and the names of statuses.

What a computation does is told for machines with fixed answers.  It runs within a stage: it makes
calls of this stage, which are told exactly, and otherwise it only keeps house.  And it does not ask
for the machine, so the answer to that question makes no difference.

## Main definitions

* `Stage`, `Call.stage?`, `Host.callsIn` — the stages, and the calls that belong to them.
* `Ran stage x host a made host'` — a run within a stage.
* `Runs stage vm x Made` — all runs on machines that answer like `vm`.
* `Aside vm x` — a computation that only keeps house.

## Main results

* `Runs.bind`, `Runs.except_bind`, `Runs.use` — the calls of computations that are put together.
* `Tool.runs_call` — a function of the tool interface runs within the stage of its call.
-/

namespace ClosureSpan

variable {ε α β : Type}

/-! ### Stages -/

/-- The stages in which a resolver works. -/
inductive Stage where
  /-- A tool environment is opened, and capabilities are asked for. -/
  | negotiation
  /-- The result class and its constructor are looked up. -/
  | binding
  /-- A class and its methods are asked about. -/
  | inspection
  /-- A result object is made. -/
  | construction
  deriving Repr, DecidableEq

/-- The place of a stage in the order in which a resolver goes through them. -/
def Stage.place : Stage → Nat
  | negotiation => 0
  | binding => 1
  | inspection => 2
  | construction => 3

theorem Stage.ne_of_place_lt {stage other : Stage} (h : other.place < stage.place) :
    stage ≠ other := by
  rintro rfl
  exact Nat.lt_irrefl _ h

/-- The stage that a call belongs to, unless it only keeps house. -/
def Call.stage? : Call → Option Stage
  | getEnvironment _ | getPotentialCapabilities | addCapabilities _ | getCapabilities =>
    some .negotiation
  | findClass _ | getMethodId _ _ _ | newGlobalRef _ => some .binding
  | query _ _ => some .inspection
  | newString _ | newObject _ _ _ _ _ => some .construction
  | getJavaVm | getErrorName _ | deallocate _ | deleteLocalRef _ | exceptionCheck
  | exceptionClear => none

/-- The calls of a stage among these. -/
def Stage.select (stage : Stage) (calls : List Call) : List Call :=
  calls.filter fun call => call.stage? = some stage

theorem Stage.select_append (stage : Stage) (calls more : List Call) :
    stage.select (calls ++ more) = stage.select calls ++ stage.select more :=
  List.filter_append ..

theorem Stage.select_own {stage : Stage} {call : Call} (h : call.stage? = some stage) :
    stage.select [call] = [call] := by
  rw [select, List.filter_singleton, h]
  simp

theorem Stage.select_other {stage : Stage} {call : Call} (h : call.stage? ≠ some stage) :
    stage.select [call] = [] := by
  rw [select, List.filter_singleton]
  simp [h]

/-- The calls of a stage so far, in order. -/
def Host.callsIn (stage : Stage) (host : Host) : List Call := stage.select host.calls

theorem Host.callsIn_record (stage : Stage) (host : Host) (call : Call) :
    ((Host.record call).run host).2.callsIn stage =
      host.callsIn stage ++ stage.select [call] := by
  rw [callsIn, callsIn, ← Stage.select_append]
  congr 1
  rw [run_record, calls, calls, List.reverse_cons, List.map_append]
  rfl

/-- The calls are those in the journal. -/
theorem Host.callsIn_congr {host host' : Host} (h : host'.journal = host.journal)
    (stage : Stage) : host'.callsIn stage = host.callsIn stage := by
  rw [callsIn, callsIn, calls, calls, h]

/-! ### The question for the machine -/

/-- The same answers, but for the question for the machine. -/
def Vm.reached (vm : Vm) (result : Int) (null : Bool) : Vm :=
  { vm with machineResult := result, nullMachine := null }

/-- The same machine, which answers differently when it is asked for. -/
def Host.reached (host : Host) (result : Int) (null : Bool) : Host :=
  { host with vm := host.vm.reached result null }

/-- A machine that answers as it does. -/
theorem Host.reached_eq_self {host : Host} {vm : Vm} (h : host.vm = vm) :
    host.reached vm.machineResult vm.nullMachine = host := by
  subst h
  rfl

/-! ### Runs within a stage -/

/-- A run of `x` within a stage, from one machine to another: it gives `a` and makes the calls
`made` of the stage, and none of another stage. -/
structure Ran (stage : Stage) (x : HostM α) (host : Host) (a : α) (made : List Call)
    (host' : Host) : Prop where
  /-- It does the same whatever is answered to the question for the machine. -/
  run : ∀ result null, x.run (host.reached result null) = (a, host'.reached result null)
  /-- The machine answers as before. -/
  keeps : host'.vm = host.vm
  /-- The calls of the stage. -/
  here : host'.callsIn stage = host.callsIn stage ++ made
  /-- There are no calls of other stages. -/
  elsewhere : ∀ other, other ≠ stage → host'.callsIn other = host.callsIn other

/-- On machines that answer like `vm` the computation runs within the stage, and the calls of the
stage are as `Made` has it. -/
def Runs (stage : Stage) (vm : Vm) (x : HostM α) (Made : α → List Call → Prop) : Prop :=
  ∀ host, host.vm = vm → ∃ a made host', Ran stage x host a made host' ∧ Made a made

/-- The computation only keeps house. -/
def Aside (vm : Vm) (x : HostM α) : Prop :=
  ∀ stage, Runs stage vm x fun _ made => made = []

section rules

variable {stage : Stage} {vm : Vm} {x : HostM α} {Made : α → List Call → Prop}
  {After : β → List Call → Prop}

theorem Ran.run_eq {host host' : Host} {a : α} {made : List Call}
    (h : Ran stage x host a made host') : x.run host = (a, host') := by
  have hrun := h.run host.vm.machineResult host.vm.nullMachine
  rwa [Host.reached_eq_self rfl, Host.reached_eq_self h.keeps] at hrun

theorem Ran.bind {f : α → HostM β} {host mid last : Host} {a : α} {b : β}
    {made more : List Call} (hx : Ran stage x host a made mid)
    (hf : Ran stage (f a) mid b more last) :
    Ran stage (x >>= f) host b (made ++ more) last where
  run result null := by
    rw [StateT.run_bind, hx.run]
    exact hf.run result null
  keeps := hf.keeps.trans hx.keeps
  here := by rw [hf.here, hx.here, List.append_assoc]
  elsewhere other hother := (hf.elsewhere other hother).trans (hx.elsewhere other hother)

namespace Runs

theorem pure {a : α} (h : Made a []) : Runs stage vm (pure a) Made := by
  intro host _
  refine ⟨a, [], host, ?_, h⟩
  exact ⟨fun _ _ => rfl, rfl, (List.append_nil _).symm, fun _ _ => rfl⟩

theorem mono {Made' : α → List Call → Prop} (h : Runs stage vm x Made)
    (hmono : ∀ a made, Made a made → Made' a made) : Runs stage vm x Made' := by
  intro host hvm
  obtain ⟨a, made, host', hran, hmade⟩ := h host hvm
  exact ⟨a, made, host', hran, hmono a made hmade⟩

theorem bind {f : α → HostM β} (h : Runs stage vm x Made)
    (hf : ∀ a made, Made a made → Runs stage vm (f a) fun b more => After b (made ++ more)) :
    Runs stage vm (x >>= f) After := by
  intro host hvm
  obtain ⟨a, made, mid, hx, hmade⟩ := h host hvm
  obtain ⟨b, more, last, hfa, hafter⟩ := hf a made hmade mid (hx.keeps.trans hvm)
  exact ⟨b, made ++ more, last, hx.bind hfa, hafter⟩

/-- First house is kept. -/
theorem aside_bind {f : α → HostM β} (h : Aside vm x) (hf : ∀ a, Runs stage vm (f a) After) :
    Runs stage vm (x >>= f) After := by
  refine (h stage).bind ?_
  rintro a _ rfl
  exact hf a

/-- What is read off the machine may be used, if it does not show the answer to the question for the
machine. -/
theorem get_bind {f : Host → HostM β}
    (hblind : ∀ host result null, f (host.reached result null) = f host)
    (hf : ∀ host, host.vm = vm → Runs stage vm (f host) After) :
    Runs stage vm (get >>= f) After := by
  intro host hvm
  obtain ⟨b, made, last, hran, hafter⟩ := hf host hvm host hvm
  refine ⟨b, made, last, ⟨?_, hran.keeps, hran.here, hran.elsewhere⟩, hafter⟩
  -- another answer to the question for the machine is read, but the rest is the same
  intro result null
  have hrun := hran.run result null
  rwa [← hblind host result null] at hrun

/-- What a computation always gives, it gives when it runs within a stage. -/
theorem gives {P : α → Prop} (h : Runs stage vm x Made) (hx : Gives x P) :
    Runs stage vm x fun a made => Made a made ∧ P a := by
  intro host hvm
  obtain ⟨a, made, host', hran, hmade⟩ := h host hvm
  have hvalue := (hx host).2
  rw [hran.run_eq] at hvalue
  exact ⟨a, made, host', hran, hmade, hvalue⟩

/-- A call that belongs to no other stage. -/
theorem record {call : Call} (h : ∀ other, call.stage? = some other → other = stage) :
    Runs stage vm (Host.record call) fun _ made => made = stage.select [call] := by
  intro host _
  refine ⟨(), stage.select [call], ((Host.record call).run host).2, ?_, rfl⟩
  refine ⟨fun _ _ => rfl, rfl, Host.callsIn_record stage host call, fun other hother => ?_⟩
  have hnone : other.select [call] = [] := Stage.select_other fun hcall => hother (h other hcall)
  rw [Host.callsIn_record, hnone, List.append_nil]

/-- A call of the stage. -/
theorem record_own {call : Call} (h : call.stage? = some stage) :
    Runs stage vm (Host.record call) fun _ made => made = [call] := by
  refine (record fun other hother => ?_).mono fun _ made hmade => ?_
  · exact Option.some.inj (hother.symm.trans h)
  · rw [hmade, Stage.select_own h]

end Runs

namespace Aside

theorem pure (a : α) : Aside vm (pure a) := fun _ => Runs.pure rfl

theorem bind {f : α → HostM β} (h : Aside vm x) (hf : ∀ a, Aside vm (f a)) :
    Aside vm (x >>= f) := fun stage => Runs.aside_bind h fun a => hf a stage

theorem get_bind {f : Host → HostM β}
    (hblind : ∀ host result null, f (host.reached result null) = f host)
    (hf : ∀ host, host.vm = vm → Aside vm (f host)) : Aside vm (get >>= f) :=
  fun stage => Runs.get_bind hblind fun host hvm => hf host hvm stage

/-- A call that belongs to no stage. -/
theorem record {call : Call} (h : call.stage? = none) : Aside vm (Host.record call) := by
  intro stage
  have hother : ∀ other, call.stage? ≠ some other := fun other => by rw [h]; nofun
  refine (Runs.record fun other hcall => absurd hcall (hother other)).mono fun _ made hmade => ?_
  rw [hmade, Stage.select_other (hother stage)]

/-- What changes neither answers nor journal, and does not look at the answer to the question for
the machine. -/
theorem modifyGet {f : Host → α × Host}
    (hblind : ∀ host result null, f (host.reached result null) =
      ((f host).1, (f host).2.reached result null))
    (hvm : ∀ host, (f host).2.vm = host.vm) (hjournal : ∀ host, (f host).2.journal = host.journal) :
    Aside vm (modifyGet f : HostM α) := by
  intro stage host _
  have hcalls := Host.callsIn_congr (hjournal host)
  refine ⟨(f host).1, [], (f host).2, ?_, rfl⟩
  refine ⟨hblind host, hvm host, ?_, fun other _ => hcalls other⟩
  rw [hcalls, List.append_nil]

theorem allocate (label : Label) : Aside vm (Host.allocate label) :=
  modifyGet (fun _ _ _ => rfl) (fun _ => rfl) fun _ => rfl

theorem setPending (pending : Bool) : Aside vm (Host.setPending pending) :=
  modifyGet (fun _ _ _ => rfl) (fun _ => rfl) fun _ => rfl

theorem report (event : Event) : Aside vm (Host.report event) := by
  have hrun : Host.report event = MonadStateOf.modifyGet fun host : Host =>
      ((), { host with
        events := if event.level.admittedBy host.verbosity then event :: host.events
          else host.events }) := StateT.ext fun host => Host.run_report event host
  rw [hrun]
  exact modifyGet (fun _ _ _ => rfl) (fun _ => rfl) fun _ => rfl

theorem deallocate (allocation : Allocation) : Aside vm (Host.deallocate allocation) := by
  refine get_bind (fun _ _ _ => rfl) fun host _ => ?_
  split
  next => exact pure _
  next =>
    refine (record rfl).bind fun _ => ?_
    split
    next => exact modifyGet (fun _ _ _ => rfl) (fun _ => rfl) fun _ => rfl
    next => exact pure _

/-- An event is made only for listeners. -/
theorem reportFrom {level : Level} {make : HostM Event} (h : Aside vm make) :
    Aside vm (Host.reportFrom level make) := by
  refine get_bind (fun _ _ _ => rfl) fun host _ => ?_
  split
  next => exact h.bind fun event => report event
  next => exact pure _

end Aside

/-! ### Computations that may fail -/

namespace Runs

variable {x : ExceptT ε HostM α} {Made : Except ε α → List Call → Prop}
  {After : Except ε β → List Call → Prop}

theorem except_bind {f : α → ExceptT ε HostM β} (h : Runs stage vm x.run Made)
    (herror : ∀ e made, Made (.error e) made → After (.error e) made)
    (hf : ∀ a made, Made (.ok a) made →
      Runs stage vm (f a).run fun outcome more => After outcome (made ++ more)) :
    Runs stage vm (x >>= f).run After := by
  rw [ExceptT.run_bind]
  refine h.bind fun outcome made hmade => ?_
  cases outcome with
  | ok a => exact hf a made hmade
  | error e =>
    refine Runs.pure ?_
    rw [List.append_nil]
    exact herror e made hmade

/-- First something is done that does not fail. -/
theorem lift_bind {y : HostM α} {Made : α → List Call → Prop} {f : α → ExceptT ε HostM β}
    (h : Runs stage vm y Made)
    (hf : ∀ a made, Made a made →
      Runs stage vm (f a).run fun outcome more => After outcome (made ++ more)) :
    Runs stage vm ((liftM y : ExceptT ε HostM α) >>= f).run After :=
  Runs.bind (f := fun a => (f a).run) h hf

theorem getThe_bind {f : Host → ExceptT ε HostM β}
    (hblind : ∀ host result null, f (host.reached result null) = f host)
    (hf : ∀ host, host.vm = vm → Runs stage vm (f host).run After) :
    Runs stage vm (getThe Host >>= f).run After :=
  get_bind (f := fun host => (f host).run)
    (fun host result null => congrArg ExceptT.run (hblind host result null)) hf

theorem adapt {ε' : Type} {After : Except ε' α → List Call → Prop} {f : ε → ε'}
    (h : Runs stage vm x.run Made)
    (hf : ∀ outcome made, Made outcome made → After (outcome.mapError f) made) :
    Runs stage vm (x.adapt f).run After := by
  refine Runs.bind h fun outcome made hmade => Runs.pure ?_
  rw [List.append_nil]
  exact hf outcome made hmade

/-- The calls of a use are those made to obtain the value, and then those made while it is held.
Giving it back only keeps house. -/
theorem use {x : ExceptT ε HostM (Held HostM α)}
    {Made : Except ε (Held HostM α) → List Call → Prop} {f : α → ExceptT ε HostM β}
    (h : Runs stage vm x.run Made)
    (herror : ∀ e made, Made (.error e) made → After (.error e) made)
    (hrelease : ∀ held made, Made (.ok held) made → Aside vm held.release)
    (hf : ∀ held made, Made (.ok held) made →
      Runs stage vm (f held.value).run fun outcome more => After outcome (made ++ more)) :
    Runs stage vm (Held.use x f).run After := by
  refine h.except_bind herror fun held made hmade => ?_
  -- the value is given back after a failure as well
  refine (hf held made hmade).bind fun outcome more hafter => ?_
  refine aside_bind (hrelease held made hmade) fun _ => Runs.pure ?_
  rw [List.append_nil]
  exact hafter

end Runs

end rules

variable {stage : Stage} {vm : Vm}

/-! ### Buffers -/

namespace Buffer

theorem aside_ofText (label : Label) (text : Option Bytes) : Aside vm (ofText label text) := by
  cases text with
  | none => exact Aside.pure _
  | some text => exact (Aside.allocate label).bind fun _ => Aside.pure _

theorem aside_ofTable {ρ : Type} (label : Label) (table : Table ρ) :
    Aside vm (ofTable label table) := by
  unfold ofTable
  split
  next => exact Aside.pure _
  next => exact (Aside.allocate label).bind fun _ => Aside.pure _

theorem aside_release (buffer : Buffer α) : Aside vm buffer.release := by
  unfold release
  split
  next => exact Aside.pure _
  next allocation _ => exact Aside.deallocate allocation

end Buffer

namespace VariableEntry

theorem aside_ofRow (method : Handle) (index : Nat) (row : VmVariable) :
    Aside vm (ofRow method index row) :=
  (Buffer.aside_ofText _ _).bind fun _ => (Buffer.aside_ofText _ _).bind fun _ =>
    (Buffer.aside_ofText _ _).bind fun _ => Aside.pure _

theorem aside_ofRows (method : Handle) (rows : List VmVariable) (index : Nat) :
    Aside vm (ofRows method index rows) := by
  induction rows generalizing index with
  | nil => exact Aside.pure _
  | cons row rows ih =>
    exact (aside_ofRow method index row).bind fun _ => (ih (index + 1)).bind fun _ => Aside.pure _

theorem aside_releaseAll (entries : List VariableEntry) : Aside vm (releaseAll entries) := by
  induction entries with
  | nil => exact Aside.pure _
  | cons entry entries ih =>
    have hentry : Aside vm entry.release :=
      entry.name.aside_release.bind fun _ => entry.signature.aside_release.bind fun _ =>
        entry.generic.aside_release
    exact hentry.bind fun _ => ih

end VariableEntry

namespace VariableTable

theorem aside_ofTable (method : Handle) (table : Table VmVariable) :
    Aside vm (ofTable method table) := by
  unfold ofTable
  split
  next => exact Aside.pure _
  next =>
    exact (VariableEntry.aside_ofRows _ _ _).bind fun _ => Buffer.aside_ofTable _ _

theorem aside_release (table : VariableTable) : Aside vm (release table) :=
  (VariableEntry.aside_releaseAll _).bind fun _ => Buffer.aside_release table

end VariableTable

/-! ### The native interface -/

@[simp] theorem Handle.nonNull?_zero : Handle.nonNull? 0 = none := rfl

theorem Handle.nonNull?_of_ne {handle : Handle} (h : handle ≠ 0) :
    handle.nonNull? = some handle := if_neg h

theorem Native.terminated?_of_notMem {bytes : Bytes} (h : 0 ∉ bytes) :
    terminated? bytes = some bytes := if_neg h

theorem Native.terminated?_of_mem {bytes : Bytes} (h : 0 ∈ bytes) : terminated? bytes = none :=
  if_pos h

namespace Native

theorem runs_answered (handle : Handle) :
    Runs stage vm (answered handle) fun result made =>
      result = handle.nonNull? ∧ made = [] := by
  refine Runs.get_bind (fun _ _ _ => rfl) fun host _ => ?_
  have hresult : Runs stage vm (Pure.pure handle.nonNull?) fun result made =>
      result = handle.nonNull? ∧ made = [] := Runs.pure ⟨rfl, rfl⟩
  split
  next => exact Runs.aside_bind (Aside.setPending true) fun _ => hresult
  next => exact hresult

/-- A call of the stage, and an answer that the machine has for it. -/
theorem runs_record_answered {call : Call} (h : call.stage? = some stage) (handle : Vm → Handle)
    (hblind : ∀ vm result null, handle (vm.reached result null) = handle vm) :
    Runs stage vm (do
      Host.record call
      answered (handle (← get).vm)) fun result made =>
        result = (handle vm).nonNull? ∧ made = [call] := by
  refine (Runs.record_own h).bind ?_
  rintro _ _ rfl
  refine Runs.get_bind (fun host result null => ?_) fun host hvm => ?_
  · exact congrArg answered (hblind host.vm result null)
  · rw [hvm]
    refine (runs_answered (handle vm)).mono ?_
    rintro _ _ ⟨rfl, rfl⟩
    exact ⟨rfl, rfl⟩

theorem aside_deleteLocalRef (object : Handle) : Aside vm (deleteLocalRef object) :=
  Aside.record rfl

theorem aside_clearPendingException : Aside vm clearPendingException := by
  have hcheck : Aside vm exceptionCheck :=
    Aside.get_bind (fun _ _ _ => rfl) fun _ _ => (Aside.record rfl).bind fun _ => Aside.pure _
  refine hcheck.bind fun pending => ?_
  cases pending with
  | false => exact Aside.pure _
  | true =>
    have hclear : Aside vm exceptionClear := (Aside.record rfl).bind fun _ => Aside.setPending false
    exact hclear.bind fun _ => Aside.pure _

theorem aside_dropLocalRef (object : Handle) : Aside vm (dropLocalRef object) := by
  unfold dropLocalRef
  split
  next => exact Aside.pure _
  next object _ => exact aside_deleteLocalRef object

theorem runs_withLocalRef {object : Handle} {body : HostM α} {Made : α → List Call → Prop}
    (h : Runs stage vm body Made) : Runs stage vm (withLocalRef object body) Made := by
  refine h.bind fun a made hmade => ?_
  refine Runs.aside_bind (aside_dropLocalRef object) fun _ => Runs.pure ?_
  rw [List.append_nil]
  exact hmade

end Native

/-! ### The tool interface -/

namespace Tool

/-- A function of the tool interface makes its call, if it is there, and then does what its answer
does, if it comes to an answer. -/
theorem runs_call {function : ToolFunction} {entry : Call} {answer : Vm → ToolM α}
    {Made : Except Status α → List Call → Prop}
    (hentry : ∀ other, entry.stage? = some other → other = stage)
    (hblind : ∀ vm result null, answer (vm.reached result null) = answer vm)
    (hmissing : Made (.error Status.notAvailable) [])
    (hrefused : Made (.error (vm.statusOf function)) (stage.select [entry]))
    (hanswer : Runs stage vm (answer vm).run fun outcome more =>
      Made outcome (stage.select [entry] ++ more)) :
    Runs stage vm (call function entry answer).run Made := by
  unfold call
  refine Runs.getThe_bind (fun host result null => ?_) fun host hvm => ?_
  · dsimp only
    rw [← hblind host.vm result null]
    rfl
  dsimp only
  rw [hvm]
  split
  next => exact Runs.pure hmissing
  next =>
    refine Runs.lift_bind (Runs.record hentry) fun _ made hmade => ?_
    subst hmade
    split
    next => exact hanswer
    next =>
      refine Runs.pure ?_
      rw [List.append_nil]
      exact hrefused

end Tool
end ClosureSpan
