import Mathlib.Data.List.Basic
import ClosureSpan.Vm.NativeInterface
import ClosureSpan.Vm.ToolInterface

/-!
# Moves

All that is done with a machine is put together from a few moves: a call is entered, memory is
handed out or given back, capabilities are asked for, an exception is raised or dropped, an event is
told.  Who listens matters to one kind of move only, the event that is made with the name of a
status; and no move depends on what was told, or on memory that holds such a name.

So a machine may be looked at without its listeners and without the names of statuses, and every
computation that is put together from moves does the same there.

## Main definitions

* `Host.bare` — a machine without listeners and names of statuses.
* `Moves May x P` — `x` is put together from moves, makes only calls that it may make, and gives
  values of the kind `P`.
* `Host.Moved` — what all moves leave as it is, and what they add to the journal.

## Main results

* `Moves.bare` — **a computation does the same with and without listeners.**
* `Moves.moved` — without a move that drops exceptions, the pending exception stays as it is.
-/

namespace ClosureSpan

variable {ε α β : Type}

/-! ### Names of statuses -/

/-- Whether the memory holds the name of a status. -/
def Label.namesStatus : Label → Bool
  | errorName _ => true
  | _ => false

/-- Whether the call asks for the name of a status, or gives one back. -/
def Call.namesStatus : Call → Bool
  | getErrorName _ => true
  | deallocate label => label.any Label.namesStatus
  | _ => false

/-- The entry without the memory that holds names of statuses. -/
def Entry.bare (entry : Entry) : Entry :=
  { entry with outstanding := entry.outstanding.filter fun piece => !piece.label.namesStatus }

namespace Host

/-- The machine without listeners, and without the names of statuses: neither the calls for them
are in the journal, nor is the memory of them out. -/
def bare (host : Host) : Host where
  vm := host.vm
  added := host.added
  pending := host.pending
  outstanding := host.outstanding.filter fun piece => !piece.label.namesStatus
  issued := host.issued.filter fun label => !label.namesStatus
  journal := (host.journal.filter fun entry => !entry.call.namesStatus).map Entry.bare

variable {host : Host}

/-- One thing is done after the other. -/
theorem run_bind (x : HostM α) (f : α → HostM β) (host : Host) :
    (x >>= f).run host = (f (x.run host).1).run (x.run host).2 := rfl

@[simp] theorem bare_vm : host.bare.vm = host.vm := rfl

@[simp] theorem bare_pending : host.bare.pending = host.pending := rfl

/-- What is new in the journal was called since, in this order. -/
theorem calls_eq_append {host' : Host} {made : List Entry}
    (h : host'.journal = made ++ host.journal) :
    host'.calls = host.calls ++ (made.map Entry.call).reverse := by
  rw [calls, calls, h, List.reverse_append, List.map_append, List.map_reverse, List.map_reverse]

/-- The calls that are left are those that do not name a status. -/
theorem calls_bare : host.bare.calls = host.calls.filter fun call => !call.namesStatus := by
  have hcall : Entry.call ∘ Entry.bare = Entry.call := rfl
  have hnames : (fun call : Call => !call.namesStatus) ∘ Entry.call =
      fun entry => !entry.call.namesStatus := rfl
  rw [calls, calls, bare, ← List.map_reverse, List.map_map, hcall, List.filter_map, hnames,
    List.filter_reverse]

theorem bare_record (call : Call) : ((record call).run host).2.bare =
    if call.namesStatus then host.bare else ((record call).run host.bare).2 := by
  rw [run_record, run_record, bare]
  cases hcall : call.namesStatus with
  | true => simp [hcall, bare]
  | false => simp [hcall, bare, Entry.bare]

/-- Memory is numbered as if no names of statuses had been handed out. -/
theorem count_issued_bare {label : Label} (h : label.namesStatus = false) :
    host.bare.issued.count label = host.issued.count label := List.count_filter (by simp [h])

theorem bare_allocate (label : Label) : ((allocate label).run host).2.bare =
    if label.namesStatus then host.bare else ((allocate label).run host.bare).2 := by
  rw [run_allocate, run_allocate, bare]
  cases hlabel : label.namesStatus with
  | true => simp [hlabel, bare]
  | false => simp [hlabel, bare]

/-- The call that gives memory back. -/
def returning (host : Host) (allocation : Allocation) : Call :=
  .deallocate (if allocation ∈ host.outstanding then some allocation.label else none)

/-- The machine once a call is entered. -/
def entered (host : Host) (call : Call) : Host := ((record call).run host).2

/-- The machine, where other memory is out. -/
def holding (host : Host) (outstanding : List Allocation) : Host := { host with outstanding }

/-- The memory without names of statuses. -/
def unnamed (memory : List Allocation) : List Allocation :=
  memory.filter fun piece => !piece.label.namesStatus

theorem bare_holding (memory : List Allocation) :
    (host.holding memory).bare = host.bare.holding (unnamed memory) := rfl

theorem calls_entered (host : Host) (call : Call) :
    (host.entered call).calls = host.calls ++ [call] := by
  have hjournal : (host.entered call).journal =
      [⟨call, host.outstanding, host.pending⟩] ++ host.journal := rfl
  exact calls_eq_append hjournal

/-- An event is told without a call. -/
theorem calls_report (event : Event) (host : Host) :
    ((report event).run host).2.calls = host.calls := by
  rw [run_report]
  rfl

/-- Giving memory back, step by step. -/
theorem run_deallocate_eq (allocation : Allocation) (host : Host) :
    (deallocate allocation).run host = ((),
      if .deallocate ∈ host.vm.missing then host
      else if host.vm.statusOf .deallocate = Status.success then
        (host.entered (host.returning allocation)).holding (host.outstanding.erase allocation)
      else host.entered (host.returning allocation)) := by
  change StateT.run (if .deallocate ∈ host.vm.missing then (pure () : HostM Unit) else do
    record (host.returning allocation)
    if host.vm.statusOf .deallocate = Status.success then
      modify fun host => { host with outstanding := host.outstanding.erase allocation }) host = _
  by_cases hmissing : .deallocate ∈ host.vm.missing
  · rw [if_pos hmissing, if_pos hmissing]
    rfl
  rw [if_neg hmissing, if_neg hmissing]
  by_cases hstatus : host.vm.statusOf .deallocate = Status.success
  · rw [if_pos hstatus, if_pos hstatus]
    rfl
  · rw [if_neg hstatus, if_neg hstatus]
    rfl

/-- Either nothing is called, or only the memory that is out may be another afterwards. -/
theorem run_deallocate_cases (allocation : Allocation) (host : Host) :
    (deallocate allocation).run host = ((), host) ∨ ∃ memory, (deallocate allocation).run host =
      ((), (host.entered (host.returning allocation)).holding memory) := by
  rw [run_deallocate_eq]
  by_cases hmissing : .deallocate ∈ host.vm.missing
  · exact .inl (by rw [if_pos hmissing])
  rw [if_neg hmissing]
  by_cases hstatus : host.vm.statusOf .deallocate = Status.success
  · exact .inr ⟨_, by rw [if_pos hstatus]⟩
  · exact .inr ⟨host.outstanding, by rw [if_neg hstatus]; rfl⟩

theorem bare_deallocate {allocation : Allocation} (h : allocation.label.namesStatus = false) :
    ((deallocate allocation).run host).2.bare = ((deallocate allocation).run host.bare).2 := by
  have hout : host.bare.returning allocation = host.returning allocation := by
    simp [returning, bare, h]
  have hcall : (host.returning allocation).namesStatus = false := by
    unfold returning
    split <;> simp [Call.namesStatus, h]
  have hentered : (host.entered (host.returning allocation)).bare =
      host.bare.entered (host.returning allocation) := by
    rw [entered, bare_record, hcall]
    rfl
  have herase : unnamed (host.outstanding.erase allocation) =
      host.bare.outstanding.erase allocation := List.erase_filter.symm
  rw [run_deallocate_eq, run_deallocate_eq, hout, bare_vm]
  by_cases hmissing : .deallocate ∈ host.vm.missing
  · rw [if_pos hmissing, if_pos hmissing]
  rw [if_neg hmissing, if_neg hmissing]
  by_cases hstatus : host.vm.statusOf .deallocate = Status.success
  · rw [if_pos hstatus, if_pos hstatus]
    rw [bare_holding, hentered, herase]
  · rw [if_neg hstatus, if_neg hstatus]
    exact hentered

/-- The name of a status is given back without a trace. -/
theorem bare_deallocate_of_namesStatus {allocation : Allocation}
    (h : allocation.label.namesStatus = true) (hout : allocation ∈ host.outstanding) :
    ((deallocate allocation).run host).2.bare = host.bare := by
  have hentered : (host.entered (host.returning allocation)).bare = host.bare := by
    have hcall : (host.returning allocation).namesStatus = true := by
      rw [returning, if_pos hout]
      exact h
    rw [entered, bare_record, hcall, if_pos rfl]
  have herase : unnamed (host.outstanding.erase allocation) = host.bare.outstanding := by
    have hnot : allocation ∉ host.bare.outstanding := by simp [bare, h]
    exact List.erase_filter.symm.trans (List.erase_of_not_mem hnot)
  rw [run_deallocate_eq]
  by_cases hmissing : .deallocate ∈ host.vm.missing
  · rw [if_pos hmissing]
  rw [if_neg hmissing]
  by_cases hstatus : host.vm.statusOf .deallocate = Status.success
  · rw [if_pos hstatus]
    rw [bare_holding, hentered, herase]
    rfl
  · rw [if_neg hstatus]
    exact hentered

end Host

/-- From `host` to `host'` the name of a status was at most asked for and given back. -/
structure Host.Named (status : Status) (host host' : Host) : Prop where
  /-- Without names of statuses the machine is the same. -/
  bare : host'.bare = host.bare
  /-- The same events are listened to. -/
  verbosity : host'.verbosity = host.verbosity
  /-- The calls. -/
  journal : ∃ made, host'.journal = made ++ host.journal ∧
    (∀ entry ∈ made, entry.pending = host.pending) ∧
    (made.map Entry.call = [] ∨ made.map Entry.call = [.getErrorName status] ∨
      made.map Entry.call = [.deallocate (some (.errorName status)), .getErrorName status])

theorem Host.Named.refl (status : Status) (host : Host) : host.Named status host :=
  ⟨rfl, rfl, [], rfl, by simp, .inl rfl⟩

/-- The name of a status, as the machine tells it. -/
def Vm.statusName (vm : Vm) (status : Status) : String :=
  if .getErrorName ∉ vm.missing ∧ vm.statusOf .getErrorName = Status.success then
    ((vm.errorNames.lookup status).map fun text => ModifiedUtf8.decode (text.getD [])).getD
      (Status.text status)
  else Status.text status

/-- The machine was asked for the name of a status, and handed it out. -/
def Host.lent (host : Host) (status : Status) : Allocation × Host :=
  (Host.allocate (.errorName status)).run (host.entered (.getErrorName status))

/-- The name of a status is handed out and given back. -/
theorem Host.named_lent (status : Status) (host : Host) :
    host.Named status ((Host.deallocate (host.lent status).1).run (host.lent status).2).2 := by
  have hout : (host.lent status).1 ∈ (host.lent status).2.outstanding := List.mem_cons_self
  have hbare : (host.lent status).2.bare = host.bare :=
    (Host.bare_allocate _).trans (Host.bare_record _)
  have hcall : (host.lent status).2.returning (host.lent status).1 =
      .deallocate (some (.errorName status)) := by
    rw [returning, if_pos hout]
    rfl
  have hreturned := (Host.bare_deallocate_of_namesStatus rfl hout).trans hbare
  rcases Host.run_deallocate_cases (host.lent status).1 (host.lent status).2 with
    hrun | ⟨memory, hrun⟩ <;> rw [hrun] at hreturned ⊢
  · exact ⟨hreturned, rfl, [_], rfl, by simp, .inr (.inl rfl)⟩
  · rw [hcall] at hreturned ⊢
    exact ⟨hreturned, rfl, [_, _], rfl, by simp [Host.lent, Host.entered], .inr (.inr rfl)⟩

namespace Tool

/-- A function of the tool interface, step by step. -/
theorem run_call (function : ToolFunction) (entry : Call) (answer : Vm → ToolM α) (host : Host) :
    (call function entry answer).run.run host =
      if function ∈ host.vm.missing then (.error Status.notAvailable, host)
      else if host.vm.statusOf function = Status.success then
        (answer host.vm).run.run (host.entered entry)
      else (.error (host.vm.statusOf function), host.entered entry) := by
  change StateT.run (ExceptT.run (if function ∈ host.vm.missing then throw Status.notAvailable else
    liftM (Host.record entry) >>= fun _ =>
      if host.vm.statusOf function = Status.success then answer host.vm
      else throw (host.vm.statusOf function))) host = _
  by_cases hmissing : function ∈ host.vm.missing
  · rw [if_pos hmissing, if_pos hmissing]
    rfl
  rw [if_neg hmissing, if_neg hmissing]
  by_cases hstatus : host.vm.statusOf function = Status.success
  · rw [if_pos hstatus, if_pos hstatus]
    rfl
  · rw [if_neg hstatus, if_neg hstatus]
    rfl

/-- A tool environment is asked for with one call. -/
theorem run_openEnvironment (host : Host) : openEnvironment.run.run host =
    (if host.vm.environmentResult ≠ 0 then .error host.vm.environmentResult
      else if host.vm.nullEnvironment = true then .error (-1) else .ok (),
      host.entered (.getEnvironment version)) := by
  change StateT.run (ExceptT.run (if host.vm.environmentResult ≠ 0 then _ else _)) _ = _
  by_cases hresult : host.vm.environmentResult ≠ 0
  · rw [if_pos hresult, if_pos hresult]
    rfl
  rw [if_neg hresult, if_neg hresult]
  change StateT.run (ExceptT.run (if host.vm.nullEnvironment = true then _ else _)) _ = _
  by_cases hnull : host.vm.nullEnvironment = true
  · rw [if_pos hnull, if_pos hnull]
    rfl
  · rw [if_neg hnull, if_neg hnull]
    rfl

/-- The name of a status, once the machine has answered. -/
theorem run_errorName_eq (status : Status) (host : Host) :
    (errorName status).run host =
      match (errorNameBuffer status).run.run host with
      | (.ok held, mid) => (ModifiedUtf8.decode held.value, (held.release.run mid).2)
      | (.error _, mid) => (Status.text status, mid) := by
  unfold errorName
  rw [Held.run_use, StateT.run_bind, StateT.run_bind]
  generalize (errorNameBuffer status).run.run host = run
  obtain ⟨outcome, mid⟩ := run
  cases outcome with
  | ok held => rfl
  | error e => rfl

/-- The name of a status depends on the machine alone, and nothing else is left of asking for it. -/
theorem run_errorName (status : Status) (host : Host) :
    ∃ host', (errorName status).run host = (host.vm.statusName status, host') ∧
      host.Named status host' := by
  have hbare : (host.entered (.getErrorName status)).bare = host.bare := Host.bare_record _
  have hasked : host.Named status (host.entered (.getErrorName status)) :=
    ⟨hbare, rfl, [_], rfl, by simp, .inr (.inl rfl)⟩
  rw [run_errorName_eq]
  unfold errorNameBuffer Vm.statusName
  rw [run_call]
  by_cases hmissing : .getErrorName ∈ host.vm.missing
  · rw [if_pos hmissing, if_neg (by simp [hmissing])]
    exact ⟨host, rfl, Host.Named.refl status host⟩
  rw [if_neg hmissing]
  by_cases hstatus : host.vm.statusOf .getErrorName = Status.success
  · rw [if_pos hstatus, if_pos ⟨hmissing, hstatus⟩]
    cases host.vm.errorNames.lookup status with
    | none => exact ⟨_, rfl, hasked⟩
    | some text =>
      cases text with
      | none => exact ⟨_, rfl, hasked⟩
      | some text =>
        refine ⟨_, rfl, ?_⟩
        exact Host.named_lent status host
  · rw [if_neg hstatus, if_neg (by simp [hstatus])]
    exact ⟨_, rfl, hasked⟩

end Tool

/-! ### Moves -/

/-- The computation is put together from moves, of which only calls that it may make are entered,
and it gives values of a kind.  An exception is raised or dropped only where exceptions may be
cleared. -/
inductive Moves (May : Call → Prop) : {α : Type} → HostM α → (α → Prop) → Prop
  /-- Nothing is done. -/
  | pure {α : Type} {P : α → Prop} {a : α} (h : P a) : Moves May (pure a) P
  /-- One thing is done after the other. -/
  | bind {α β : Type} {x : HostM α} {f : α → HostM β} {P : α → Prop} {Q : β → Prop}
    (hx : Moves May x P) (hf : ∀ a, P a → Moves May (f a) Q) : Moves May (x >>= f) Q
  /-- The machine is looked at. -/
  | look {α : Type} {f : Host → HostM α} {P : α → Prop} (hblind : ∀ host, f host.bare = f host)
    (hf : ∀ host, Moves May (f host) P) : Moves May (get >>= f) P
  /-- A call is entered. -/
  | record {call : Call} (h : May call) : Moves May (Host.record call) fun _ => True
  /-- Memory is handed out. -/
  | allocate {label : Label} (h : label.namesStatus = false) :
    Moves May (Host.allocate label) fun piece => piece.label.namesStatus = false
  /-- Memory is given back. -/
  | deallocate {piece : Allocation} (h : piece.label.namesStatus = false) :
    Moves May (Host.deallocate piece) fun _ => True
  /-- Capabilities are asked for. -/
  | add (wanted : CapabilitySet) :
    Moves May (modify fun host => { host with added := host.added ||| wanted } : HostM Unit)
      fun _ => True
  /-- An exception is raised or dropped. -/
  | setPending (h : May .exceptionClear) (pending : Bool) :
    Moves May (Host.setPending pending) fun _ => True
  /-- An event is told. -/
  | report (event : Event) : Moves May (Host.report event) fun _ => True
  /-- The name of a status is asked for. -/
  | errorName {status : Status} (h : May (.getErrorName status)) :
    Moves May (Tool.errorName status) fun _ => True
  /-- An event is made with the name of a status, if anyone listens. -/
  | reportName {status : Status} (h : May (.getErrorName status)) (level : Level)
    (event : String → Event) :
    Moves May (Host.reportFrom level do pure (event (← Tool.errorName status))) fun _ => True

/-- An event with the name of a status is made for listeners only. -/
theorem Host.run_reportName (status : Status) (level : Level) (event : String → Event)
    (host : Host) :
    ∃ host', (Host.reportFrom level do pure (event (← Tool.errorName status))).run host =
      ((), host') ∧ host.Named status host' ∧
        (level.admittedBy host.verbosity = false → host' = host) := by
  obtain ⟨mid, hrun, hnamed⟩ := Tool.run_errorName status host
  change ∃ host', StateT.run (if level.admittedBy host.verbosity then
    (do pure (event (← Tool.errorName status))) >>= Host.report else pure ()) host = _ ∧ _
  by_cases hlevel : level.admittedBy host.verbosity = true
  · rw [if_pos hlevel, StateT.run_bind, StateT.run_bind, hrun]
    refine ⟨_, Host.run_report _ mid, ⟨hnamed.bare, hnamed.verbosity, hnamed.journal⟩, ?_⟩
    intro hsilent
    rw [hlevel] at hsilent
    cases hsilent
  · rw [if_neg hlevel]
    exact ⟨host, rfl, Host.Named.refl status host, fun _ => rfl⟩

/-- Where memory is handed out, it may be given back. -/
structure GivesBack (May : Call → Prop) : Prop where
  /-- Other memory may be given back. -/
  memory : ∀ label : Option Label, label.any Label.namesStatus = false → May (.deallocate label)
  /-- So may the names of statuses, where they may be asked for. -/
  name : ∀ status, May (.getErrorName status) → May (.deallocate (some (.errorName status)))

/-- Whatever is called may be called. -/
abbrev Call.Any (_ : Call) : Prop := True

theorem givesBack_any : GivesBack Call.Any := ⟨fun _ _ => trivial, fun _ _ => trivial⟩

/-- From `host` to `host'` calls were made that may be made, and the machine answers as before.  An
exception that is pending stays so, unless exceptions may be cleared. -/
structure Host.Moved (May : Call → Prop) (host host' : Host) : Prop where
  /-- The machine answers as before. -/
  vm : host'.vm = host.vm
  /-- The same events are listened to. -/
  verbosity : host'.verbosity = host.verbosity
  /-- The pending exception is as before. -/
  pending : ¬ May .exceptionClear → host'.pending = host.pending
  /-- The calls, with the exception that was pending when they were made. -/
  journal : ∃ made, host'.journal = made ++ host.journal ∧ ∀ entry ∈ made, May entry.call ∧
    (¬ May .exceptionClear → entry.pending = host.pending)

namespace Host.Moved

variable {May : Call → Prop} {host mid last : Host}

theorem refl (host : Host) : host.Moved May host := ⟨rfl, rfl, fun _ => rfl, [], rfl, by simp⟩

theorem trans (h : host.Moved May mid) (h' : mid.Moved May last) : host.Moved May last := by
  obtain ⟨made, hmade, hcalls⟩ := h.journal
  obtain ⟨more, hmore, hcalls'⟩ := h'.journal
  refine ⟨h'.vm.trans h.vm, h'.verbosity.trans h.verbosity,
    fun hmay => (h'.pending hmay).trans (h.pending hmay), more ++ made, ?_, ?_⟩
  · rw [hmore, hmade, List.append_assoc]
  · intro entry hentry
    rcases List.mem_append.mp hentry with hentry | hentry
    · obtain ⟨hcall, hpending⟩ := hcalls' entry hentry
      exact ⟨hcall, fun hmay => (hpending hmay).trans (h.pending hmay)⟩
    · exact hcalls entry hentry

theorem entered {call : Call} (h : May call) (host : Host) :
    host.Moved May (host.entered call) := by
  refine ⟨rfl, rfl, fun _ => rfl, [_], rfl, ?_⟩
  intro entry hentry
  obtain rfl := List.mem_singleton.mp hentry
  exact ⟨h, fun _ => rfl⟩

theorem ofNamed (hfree : GivesBack May) {status : Status} (hmay : May (.getErrorName status))
    (h : host.Named status mid) : host.Moved May mid := by
  obtain ⟨made, hmade, hpending, hcalls⟩ := h.journal
  have hvm : mid.vm = host.vm := by rw [← Host.bare_vm, h.bare, Host.bare_vm]
  have hsame : mid.pending = host.pending := by rw [← Host.bare_pending, h.bare, Host.bare_pending]
  refine ⟨hvm, h.verbosity, fun _ => hsame, made, hmade, ?_⟩
  intro entry hentry
  refine ⟨?_, fun _ => hpending entry hentry⟩
  have hcall : entry.call ∈ made.map Entry.call := List.mem_map_of_mem hentry
  rcases hcalls with hnone | hname | hboth
  · rw [hnone] at hcall
    cases hcall
  · rw [hname, List.mem_singleton] at hcall
    rw [hcall]
    exact hmay
  · rw [hboth, List.mem_pair] at hcall
    rcases hcall with hcall | hcall
    · rw [hcall]
      exact hfree.name status hmay
    · rw [hcall]
      exact hmay

/-- The calls that were made since. -/
theorem calls (h : host.Moved May mid) :
    ∃ made, mid.calls = host.calls ++ made ∧ ∀ call ∈ made, May call := by
  obtain ⟨made, hmade, hcalls⟩ := h.journal
  refine ⟨(made.map Entry.call).reverse, Host.calls_eq_append hmade, ?_⟩
  intro call hcall
  obtain ⟨entry, hentry, rfl⟩ := List.mem_map.mp (List.mem_reverse.mp hcall)
  exact (hcalls entry hentry).1

end Host.Moved

namespace Moves

variable {May : Call → Prop} {x : HostM α} {P : α → Prop}

theorem mono {Q : α → Prop} (h : Moves May x P) (hmono : ∀ a, P a → Q a) : Moves May x Q := by
  rw [← bind_pure x]
  exact h.bind fun a ha => .pure (hmono a ha)

/-- What is given is of this kind. -/
theorem gives (h : Moves May x P) (host : Host) : P (x.run host).1 := by
  induction h generalizing host with
  | pure h => exact h
  | bind _ _ ihx ihf => exact ihf _ (ihx host) _
  | look _ _ ih => exact ih host host
  | allocate h => exact h
  | record | deallocate | add | setPending | report | errorName | reportName => trivial

/-- **A computation does the same with and without listeners.**  On machines that are the same
without their listeners and the names of statuses, it gives the same and leaves such machines. -/
theorem bare (h : Moves May x P) {host other : Host} (hbare : host.bare = other.bare) :
    (x.run host).1 = (x.run other).1 ∧ (x.run host).2.bare = (x.run other).2.bare := by
  induction h generalizing host other with
  | pure => exact ⟨rfl, hbare⟩
  | @bind _ _ x f _ _ hx _ ihx ihf =>
    obtain ⟨hvalue, hmid⟩ := ihx hbare
    have hrest := ihf _ (hx.gives host) hmid
    rwa [Host.run_bind, Host.run_bind, ← hvalue]
  | @look _ f _ hblind _ ih =>
    have hsame : f host = f other := by rw [← hblind host, hbare, hblind]
    have hrest := ih host hbare
    change ((f host).run host).1 = ((f other).run other).1 ∧ _ = ((f other).run other).2.bare
    rwa [← hsame]
  | record =>
    refine ⟨rfl, ?_⟩
    rw [Host.bare_record, Host.bare_record, hbare]
  | @allocate label h =>
    refine ⟨?_, by rw [Host.bare_allocate, Host.bare_allocate, hbare]⟩
    rw [Host.run_allocate, Host.run_allocate, ← Host.count_issued_bare h, hbare,
      Host.count_issued_bare h]
  | deallocate h =>
    refine ⟨rfl, ?_⟩
    rw [Host.bare_deallocate h, Host.bare_deallocate h, hbare]
  | add wanted =>
    refine ⟨rfl, ?_⟩
    exact congrArg (fun host : Host => { host with added := host.added ||| wanted }) hbare
  | setPending _ pending =>
    exact ⟨rfl, congrArg (fun host : Host => { host with pending }) hbare⟩
  | report event =>
    rw [Host.run_report, Host.run_report]
    exact ⟨rfl, hbare⟩
  | @errorName status =>
    obtain ⟨host', hrun, hnamed⟩ := Tool.run_errorName status host
    obtain ⟨other', hrun', hnamed'⟩ := Tool.run_errorName status other
    have hvm : host.vm = other.vm := by rw [← Host.bare_vm, hbare, Host.bare_vm]
    rw [hrun, hrun', hvm]
    exact ⟨rfl, hnamed.bare.trans (hbare.trans hnamed'.bare.symm)⟩
  | @reportName status _ level event =>
    obtain ⟨host', hrun, hnamed, -⟩ := Host.run_reportName status level event host
    obtain ⟨other', hrun', hnamed', -⟩ := Host.run_reportName status level event other
    rw [hrun, hrun']
    exact ⟨rfl, hnamed.bare.trans (hbare.trans hnamed'.bare.symm)⟩

/-- **A computation makes only calls that it may make, and leaves the machine and its listeners as
they are.**  If it may not clear exceptions, the same exception is pending all the time. -/
theorem moved (h : Moves May x P) (hfree : GivesBack May) (host : Host) :
    host.Moved May (x.run host).2 := by
  induction h generalizing host with
  | pure => exact .refl host
  | @bind _ _ x f _ _ hx hf ihx ihf =>
    rw [Host.run_bind]
    exact (ihx host).trans (ihf _ (hx.gives host) _)
  | look _ _ ih => exact ih host host
  | record h => exact .entered h host
  | allocate => exact ⟨rfl, rfl, fun _ => rfl, [], rfl, by simp⟩
  | @deallocate piece h =>
    have hcall : May (host.returning piece) := by
      refine hfree.memory _ ?_
      split <;> simp [h]
    rcases Host.run_deallocate_cases piece host with hrun | ⟨memory, hrun⟩ <;> rw [hrun]
    · exact .refl host
    · have hentered := Host.Moved.entered hcall host
      exact ⟨hentered.vm, hentered.verbosity, hentered.pending, hentered.journal⟩
  | add => exact ⟨rfl, rfl, fun _ => rfl, [], rfl, by simp⟩
  | setPending h => exact ⟨rfl, rfl, fun hmay => absurd h hmay, [], rfl, by simp⟩
  | report event =>
    rw [Host.run_report]
    exact ⟨rfl, rfl, fun _ => rfl, [], rfl, by simp⟩
  | @errorName status h =>
    obtain ⟨host', hrun, hnamed⟩ := Tool.run_errorName status host
    rw [hrun]
    exact .ofNamed hfree h hnamed
  | @reportName status h level event =>
    obtain ⟨host', hrun, hnamed, -⟩ := Host.run_reportName status level event host
    rw [hrun]
    exact .ofNamed hfree h hnamed

/-- What was called stays in the journal. -/
theorem mem_calls (h : Moves May x P) (hfree : GivesBack May) {host : Host} {call : Call}
    (hcall : call ∈ host.calls) : call ∈ (x.run host).2.calls := by
  obtain ⟨made, hmade, -⟩ := (h.moved hfree host).calls
  rw [hmade]
  exact List.mem_append_left _ hcall

/-- What may not be called is not called. -/
theorem mem_calls_iff (h : Moves May x P) (hfree : GivesBack May) {host : Host} {call : Call}
    (hmay : ¬ May call) : call ∈ (x.run host).2.calls ↔ call ∈ host.calls := by
  obtain ⟨made, hmade, hall⟩ := (h.moved hfree host).calls
  rw [hmade, List.mem_append, or_iff_left]
  exact fun hcall => hmay (hall call hcall)

end Moves
end ClosureSpan
