import ClosureSpan.Proofs.Vm.Lending
import ClosureSpan.Proofs.Vm.Questions

/-!
# The memory that is out at a question

A scan gives back what it was lent as soon as it can.  While it goes from method to method, only the
methods of the class are out; the tables of a method are out only while that method is measured; and
nothing is left when the source file is asked for.  So the memory that is out at a time is bounded
by one method, however many the class has.

What is out when the scan ends says nothing of this: a table that was kept until then would not
show.  It shows in the journal, where each call stands with the memory that was out.  So here a
triple tells all of the memory that is out, not only what a computation owns, and it tells of each
call on the way.

## Main definitions

* `Vm.methodsLabels`, `Vm.localsLabels` — what memory the tables of a class and of a method take.
* `Vm.outAt` — the memory that may be out at a question.
* `Watched taken x Left` — what a computation leaves of the memory that is out, and that it asks its
  questions with the right memory out.
* `Steady`, `Lent` — computations that leave the memory as it is, or add what their result owns.

## Main results

* `Lent.use` — a use has the memory of its value out in its body, and none of it afterwards.
* `Tool.steady_scan` — a scan over any number of methods leaves the memory as it is.
* `Tool.footprint_resolve` — **at each question exactly the memory is out that it is asked with.**
-/

namespace ClosureSpan

variable {ε α β ρ : Type}

/-! ### The memory of tables -/

/-- The memory of the texts of a row.  A text that is a null pointer has none. -/
def VmVariable.labels (row : VmVariable) (method : Handle) (index : Nat) : List Label :=
  (row.name.map fun _ => Label.variableName method index).toList ++
    ((row.signature.map fun _ => Label.variableSignature method index).toList ++
      (row.generic.map fun _ => Label.variableGeneric method index).toList)

/-- The memory of the texts of rows, the first of which has this index. -/
def VmVariable.allLabels (method : Handle) : Nat → List VmVariable → List Label
  | _, [] => []
  | index, row :: rows => row.labels method index ++ allLabels method (index + 1) rows

/-- The memory of a table.  A null pointer has none. -/
def Table.labels (label : Label) (table : Table ρ) : List Label :=
  if table.null then [] else [label]

/-- The memory of a local variable table: the texts of its rows, and the table. -/
def Table.variableLabels (method : Handle) (table : Table VmVariable) : List Label :=
  if table.null then [] else VmVariable.allLabels method 0 table.rows ++ [.locals method]

namespace Vm

/-- The memory of the methods of a class. -/
def methodsLabels (vm : Vm) (owner : Handle) : List Label :=
  match vm.class? owner with
  | none => []
  | some entry => entry.methods.labels (.methods owner)

/-- The memory of the local variable table of a method. -/
def localsLabels (vm : Vm) (method : Handle) : List Label :=
  match (vm.method? method).bind VmMethod.locals with
  | none => []
  | some table => table.variableLabels method

/-- The memory that may be out when a question is asked during a scan of the class. -/
def outAt (vm : Vm) (owner : Handle) : Query → Handle → List Label
  | .methods, _ => []
  | .modifiers, _ => vm.methodsLabels owner
  | .name, _ => vm.methodsLabels owner
  | .locals, _ => vm.methodsLabels owner
  | .lines, method => vm.localsLabels method ++ vm.methodsLabels owner
  | .sourceFile, _ => []

end Vm

/-- What pieces of memory hold. -/
def labelsOf (memory : List Allocation) : List Label := memory.map Allocation.label

/-- If the call asks a question, exactly the memory is out that may be. -/
def Entry.Bounded (vm : Vm) (owner : Handle) (entry : Entry) : Prop :=
  ∀ query subject, entry.call = .query query subject →
    (labelsOf entry.outstanding).Perm (vm.outAt owner query subject)

/-! ### Watched computations -/

variable {vm : Vm} {owner : Handle}

/-- On a machine that answers like `vm`, and where just the memory `taken` is out, the computation
leaves memory that `Left` admits for its result, and asks its questions with the right memory
out. -/
def Watched (vm : Vm) (owner : Handle) (taken : List Allocation) (x : HostM α)
    (Left : α → List Allocation → Prop) : Prop :=
  ∀ host : Host, host.vm = vm → host.outstanding.Perm taken →
    (x.run host).2.vm = vm ∧
      (∃ left, Left (x.run host).1 left ∧ (x.run host).2.outstanding.Perm left) ∧
      ∃ made, (x.run host).2.journal = made ++ host.journal ∧
        ∀ entry ∈ made, entry.Bounded vm owner

namespace Watched

variable {taken : List Allocation} {x : HostM α} {Left Left' : α → List Allocation → Prop}

theorem pure {a : α} (h : Left a taken) : Watched vm owner taken (pure a) Left :=
  fun _ hvm hout => ⟨hvm, ⟨taken, h, hout⟩, [], rfl, by simp⟩

theorem mono (h : Watched vm owner taken x Left) (hmono : ∀ a left, Left a left → Left' a left) :
    Watched vm owner taken x Left' := by
  intro host hvm hout
  obtain ⟨hvm', ⟨left, hleft, hout'⟩, hmade⟩ := h host hvm hout
  exact ⟨hvm', ⟨left, hmono _ _ hleft, hout'⟩, hmade⟩

/-- The order of the pieces plays no part. -/
theorem of_perm {taken' : List Allocation} (h : Watched vm owner taken x Left)
    (hperm : taken'.Perm taken) : Watched vm owner taken' x Left :=
  fun host hvm hout => h host hvm (hout.trans hperm)

theorem bind {f : α → HostM β} {After : β → List Allocation → Prop}
    (h : Watched vm owner taken x Left)
    (hf : ∀ a left, Left a left → Watched vm owner left (f a) After) :
    Watched vm owner taken (x >>= f) After := by
  intro host hvm hout
  obtain ⟨hvm', ⟨left, hleft, hout'⟩, made, hmade, hbounded⟩ := h host hvm hout
  obtain ⟨hvm'', hafter, more, hmore, hbounded'⟩ := hf _ left hleft _ hvm' hout'
  rw [Host.run_bind]
  refine ⟨hvm'', hafter, more ++ made, ?_, List.forall_mem_append.mpr ⟨hbounded', hbounded⟩⟩
  rw [hmore, hmade, List.append_assoc]

theorem map {f : α → β} {After : β → List Allocation → Prop} (h : Watched vm owner taken x Left)
    (hf : ∀ a left, Left a left → After (f a) left) : Watched vm owner taken (f <$> x) After := by
  rw [← bind_pure_comp]
  exact h.bind fun a left hleft => Watched.pure (hf a left hleft)

end Watched

/-- The computation leaves the memory that is out as it is. -/
abbrev Steady (vm : Vm) (owner : Handle) (memory : List Allocation) (x : HostM α) : Prop :=
  Watched vm owner memory x fun _ left => left = memory

namespace Steady

variable {memory : List Allocation}

theorem bind {x : HostM α} {f : α → HostM β} {After : β → List Allocation → Prop}
    (h : Steady vm owner memory x) (hf : ∀ a, Watched vm owner memory (f a) After) :
    Watched vm owner memory (x >>= f) After := by
  refine Watched.bind h fun a left hleft => ?_
  subst hleft
  exact hf a

/-- What comes after a success, and nothing after a failure. -/
theorem except_bind {x : ExceptT ε HostM α} {f : α → ExceptT ε HostM β}
    (h : Steady vm owner memory x.run) (hf : ∀ a, Steady vm owner memory (f a).run) :
    Steady vm owner memory (x >>= f).run := by
  rw [ExceptT.run_bind]
  refine h.bind fun outcome => ?_
  cases outcome with
  | ok a => exact hf a
  | error e => exact Watched.pure rfl

theorem adapt {ε' : Type} {x : ExceptT ε HostM α} (h : Steady vm owner memory x.run)
    (f : ε → ε') : Steady vm owner memory (x.adapt f).run :=
  Watched.map h fun _ _ hleft => hleft

theorem report (event : Event) : Steady vm owner memory (Host.report event) := by
  intro host hvm hout
  rw [Host.run_report]
  exact ⟨hvm, ⟨memory, rfl, hout⟩, [], rfl, by simp⟩

/-- Something is told, and then it goes on. -/
theorem report_bind (event : Event) {f : ExceptT ε HostM α} (h : Steady vm owner memory f.run) :
    Steady vm owner memory
      ((liftM (Host.report event) : ExceptT ε HostM Unit) >>= fun _ => f).run :=
  Steady.bind (f := fun _ => f.run) (report event) fun _ => h

end Steady

/-! ### Buffers -/

theorem watched_allocate (label : Label) (taken : List Allocation) :
    Watched vm owner taken (Host.allocate label) fun allocation left =>
      left = allocation :: taken ∧ allocation.label = label := by
  intro host hvm hout
  rw [Host.run_allocate]
  exact ⟨hvm, ⟨_, ⟨rfl, rfl⟩, hout.cons _⟩, [], rfl, by simp⟩

section

variable (htakes : vm.TakesBack)

include htakes

theorem watched_deallocate (allocation : Allocation) (rest : List Allocation) :
    Watched vm owner (allocation :: rest) (Host.deallocate allocation) fun _ left =>
      left = rest := by
  rintro host rfl hout
  have hrest : (host.outstanding.erase allocation).Perm rest := by
    simpa using hout.erase allocation
  rw [Host.run_deallocate htakes]
  exact ⟨rfl, ⟨rest, rfl, hrest⟩, [_], rfl, List.forall_mem_singleton.mpr nofun⟩

/-- Giving the value back gives back this memory. -/
def Held.Returns (vm : Vm) (owner : Handle) (held : Held HostM α) (memory : List Allocation) :
    Prop :=
  ∀ rest, Watched vm owner (memory ++ rest) held.release fun _ left => left = rest

namespace Buffer

theorem watched_release (buffer : Buffer α) (rest : List Allocation) :
    Watched vm owner (buffer.memory.toList ++ rest) buffer.release fun _ left => left = rest := by
  obtain ⟨memory, contents⟩ := buffer
  cases memory with
  | none => exact Watched.pure rfl
  | some allocation => exact watched_deallocate htakes allocation rest

end Buffer

end

namespace Buffer

theorem watched_ofText (label : Label) (text : Option Bytes) (taken : List Allocation) :
    Watched vm owner taken (ofText label text) fun buffer left =>
      left = buffer.memory.toList ++ taken ∧
        labelsOf buffer.memory.toList = (text.map fun _ => label).toList := by
  cases text with
  | none => exact Watched.pure ⟨rfl, rfl⟩
  | some text =>
    refine (watched_allocate label taken).bind fun allocation left hleft => ?_
    obtain ⟨rfl, rfl⟩ := hleft
    exact Watched.pure ⟨rfl, rfl⟩

theorem watched_ofTable (label : Label) (table : Table ρ) (taken : List Allocation) :
    Watched vm owner taken (ofTable label table) fun buffer left =>
      left = buffer.memory.toList ++ taken ∧
        labelsOf buffer.memory.toList = table.labels label ∧ buffer.contents = table.visible := by
  unfold ofTable Table.labels Table.visible
  split
  next => exact Watched.pure ⟨rfl, rfl, rfl⟩
  next =>
    refine (watched_allocate label taken).bind fun allocation left hleft => ?_
    obtain ⟨rfl, rfl⟩ := hleft
    exact Watched.pure ⟨rfl, rfl, rfl⟩

end Buffer

/-! ### Local variable tables -/

namespace VariableEntry

theorem watched_ofRow (method : Handle) (index : Nat) (row : VmVariable)
    (taken : List Allocation) : Watched vm owner taken (ofRow method index row) fun entry left =>
      left.Perm (entry.memory ++ taken) ∧ labelsOf entry.memory = row.labels method index := by
  refine (Buffer.watched_ofText _ _ _).bind fun name left hleft => ?_
  obtain ⟨rfl, hname⟩ := hleft
  refine (Buffer.watched_ofText _ _ _).bind fun signature left hleft => ?_
  obtain ⟨rfl, hsignature⟩ := hleft
  refine (Buffer.watched_ofText _ _ _).bind fun generic left hleft => ?_
  obtain ⟨rfl, hgeneric⟩ := hleft
  refine Watched.pure ⟨?_, ?_⟩
  · -- the newest piece stands first
    rw [← List.append_assoc, ← List.append_assoc]
    refine List.Perm.append_right taken (List.perm_append_comm.trans ?_)
    exact List.perm_append_comm.append_left _
  · rw [VmVariable.labels, ← hname, ← hsignature, ← hgeneric]
    simp [memory, labelsOf]

/-- Rows are handed out one for one. -/
theorem watched_ofRows (method : Handle) (rows : List VmVariable) (index : Nat)
    (taken : List Allocation) : Watched vm owner taken (ofRows method index rows)
      fun entries left => entries.length = rows.length ∧
        left.Perm (entries.flatMap memory ++ taken) ∧
        labelsOf (entries.flatMap memory) = VmVariable.allLabels method index rows := by
  induction rows generalizing index taken with
  | nil => exact Watched.pure ⟨rfl, List.Perm.refl _, rfl⟩
  | cons row rows ih =>
    refine (watched_ofRow method index row taken).bind fun entry left hleft => ?_
    obtain ⟨hentry, hlabels⟩ := hleft
    refine (ih (index + 1) left).bind fun entries all hall => ?_
    obtain ⟨hlength, hentries, hmore⟩ := hall
    refine Watched.pure ⟨by simp [hlength], ?_, ?_⟩
    · have hall : all.Perm (entries.flatMap memory ++ (entry.memory ++ taken)) :=
        hentries.trans (hentry.append_left _)
      rw [List.flatMap_cons]
      rw [← List.append_assoc] at hall
      exact hall.trans (List.perm_append_comm.append_right taken)
    · rw [VmVariable.allLabels, ← hlabels, ← hmore]
      simp [labelsOf]

section

variable (htakes : vm.TakesBack)

include htakes

theorem watched_release (entry : VariableEntry) (rest : List Allocation) :
    Watched vm owner (entry.memory ++ rest) entry.release fun _ left => left = rest := by
  unfold memory
  rw [List.append_assoc, List.append_assoc]
  refine (entry.name.watched_release htakes _).bind fun _ left hleft => ?_
  subst hleft
  refine (entry.signature.watched_release htakes _).bind fun _ left hleft => ?_
  subst hleft
  exact entry.generic.watched_release htakes rest

theorem watched_releaseAll (entries : List VariableEntry) (rest : List Allocation) :
    Watched vm owner (entries.flatMap memory ++ rest) (releaseAll entries) fun _ left =>
      left = rest := by
  induction entries with
  | nil => exact Watched.pure rfl
  | cons entry entries ih =>
    rw [List.flatMap_cons, List.append_assoc]
    refine (entry.watched_release htakes _).bind fun _ left hleft => ?_
    subst hleft
    exact ih

end

end VariableEntry

namespace VariableTable

/-- The memory of a local variable table, with that of its rows. -/
def allMemory (table : VariableTable) : List Allocation :=
  table.contents.flatMap VariableEntry.memory ++ table.memory.toList

/-- The texts of all rows hang on the table only because all rows can be seen. -/
theorem watched_ofTable (method : Handle) {table : Table VmVariable} (h : table.Honest)
    (taken : List Allocation) : Watched vm owner taken (ofTable method table) fun buffer left =>
      left.Perm (allMemory buffer ++ taken) ∧
        labelsOf (allMemory buffer) = table.variableLabels method := by
  unfold ofTable Table.variableLabels
  split
  next => exact Watched.pure ⟨List.Perm.refl _, rfl⟩
  next hnull =>
    have hcount := h.resolve_left hnull
    refine (VariableEntry.watched_ofRows method table.rows 0 taken).bind ?_
    intro entries left hleft
    obtain ⟨hlength, hentries, hlabels⟩ := hleft
    refine (Buffer.watched_ofTable _ _ _).mono fun buffer all hall => ?_
    obtain ⟨rfl, htable, hcontents⟩ := hall
    have hvisible : buffer.contents = entries := by
      rw [hcontents]
      exact Table.visible_eq_rows rfl (by rw [hlength]; exact hcount)
    unfold allMemory
    rw [hvisible]
    refine ⟨?_, ?_⟩
    · have hall := hentries.append_left buffer.memory.toList
      rw [← List.append_assoc] at hall
      exact hall.trans (List.perm_append_comm.append_right taken)
    · rw [← hlabels, labelsOf, List.map_append]
      exact congrArg _ htable

theorem watched_release (htakes : vm.TakesBack) (table : VariableTable)
    (rest : List Allocation) :
    Watched vm owner (allMemory table ++ rest) (release table) fun _ left => left = rest := by
  unfold allMemory
  rw [List.append_assoc]
  refine (VariableEntry.watched_releaseAll htakes _ _).bind fun _ left hleft => ?_
  subst hleft
  exact Buffer.watched_release htakes table rest

end VariableTable

/-! ### Lent values -/

/-- The computation adds the memory that its result owns, which holds what `Named` admits; if it
fails, it adds none. -/
def Lent (vm : Vm) (owner : Handle) (taken : List Allocation) (Named : List Label → Prop)
    (acquire : ExceptT ε HostM (Held HostM α)) : Prop :=
  Watched vm owner taken acquire.run fun outcome left => match outcome with
    | .ok held => ∃ memory, left.Perm (memory ++ taken) ∧ Named (labelsOf memory) ∧
        held.Returns vm owner memory
    | .error _ => left = taken

namespace Lent

variable {taken : List Allocation} {Named : List Label → Prop}
  {acquire : ExceptT ε HostM (Held HostM α)}

theorem throw (e : ε) :
    Lent vm owner taken Named (throw e : ExceptT ε HostM (Held HostM α)) := Watched.pure rfl

theorem map (h : Lent vm owner taken Named acquire) (f : α → β) :
    Lent vm owner taken Named (Held.map f <$> acquire) := by
  unfold Lent
  rw [ExceptT.run_map]
  refine Watched.map h fun outcome left hleft => ?_
  cases outcome with
  | ok held => exact hleft
  | error e => exact hleft

theorem adapt {ε' : Type} (h : Lent vm owner taken Named acquire) (f : ε → ε') :
    Lent vm owner taken Named (acquire.adapt f) := by
  refine Watched.map h fun outcome left hleft => ?_
  cases outcome with
  | ok held => exact hleft
  | error e => exact hleft

theorem weaken (h : Lent vm owner taken Named acquire) :
    Lent vm owner taken (fun _ => True) acquire := by
  refine Watched.mono h fun outcome left hleft => ?_
  cases outcome with
  | error e => exact hleft
  | ok held =>
    obtain ⟨memory, hperm, -, hreturns⟩ := hleft
    exact ⟨memory, hperm, trivial, hreturns⟩

/-- **A use has the memory of its value out in its body, and none of it afterwards.** -/
theorem use {body : α → ExceptT ε HostM β} (h : Lent vm owner taken Named acquire)
    (hbody : ∀ value memory, Named (labelsOf memory) →
      Steady vm owner (memory ++ taken) (body value).run) :
    Steady vm owner taken (Held.use acquire body).run := by
  rw [Held.run_use]
  refine Watched.bind h fun outcome left hleft => ?_
  cases outcome with
  | error e =>
    obtain rfl : left = taken := hleft
    exact Watched.pure rfl
  | ok held =>
    obtain ⟨memory, hperm, hnamed, hreturns⟩ := hleft
    refine Watched.of_perm ?_ hperm
    refine (hbody held.value memory hnamed).bind fun outcome => ?_
    refine (hreturns taken).bind fun _ left hleft => ?_
    subst hleft
    exact Watched.pure rfl

end Lent

/-- What is handed out is lent, if giving it back gives back what was added for it. -/
theorem Lent.of_watched {x : HostM β} {hold : β → Held HostM α} {taken : List Allocation}
    {Named : List Label → Prop}
    (h : Watched vm owner taken x fun a left => ∃ memory, left.Perm (memory ++ taken) ∧
      Named (labelsOf memory) ∧ (hold a).Returns vm owner memory) :
    Lent vm owner taken Named (do
      let a ← x
      pure (hold a) : ExceptT ε HostM (Held HostM α)) := by
  have hlift : (do
      let a ← x
      pure (hold a) : ExceptT ε HostM (Held HostM α)).run =
        x >>= fun a => pure (Except.ok (hold a)) := rfl
  unfold Lent
  rw [hlift]
  exact Watched.bind h fun _ _ hleft => Watched.pure hleft

section lent

variable (htakes : vm.TakesBack)

include htakes

theorem Buffer.lent_ofText (label : Label) (text : Option Bytes) (taken : List Allocation) :
    Lent vm owner taken (fun _ => True) (do
      let buffer ← Buffer.ofText label text
      pure buffer.held : ExceptT ε HostM (Held HostM Bytes)) := by
  refine Lent.of_watched ((Buffer.watched_ofText label text taken).mono ?_)
  rintro buffer _ ⟨rfl, -⟩
  exact ⟨_, List.Perm.refl _, trivial, buffer.watched_release htakes⟩

theorem Buffer.lent_ofTable (label : Label) (table : Table ρ) (taken : List Allocation) :
    Lent vm owner taken (fun labels => labels = table.labels label) (do
      let buffer ← Buffer.ofTable label table
      pure buffer.held : ExceptT ε HostM (Held HostM (List ρ))) := by
  refine Lent.of_watched ((Buffer.watched_ofTable label table taken).mono ?_)
  rintro buffer _ ⟨rfl, hlabels, -⟩
  exact ⟨_, List.Perm.refl _, hlabels, buffer.watched_release htakes⟩

/-- A local variable table is lent with the texts of all its rows. -/
theorem VariableTable.lent_ofTable (method : Handle) {table : Table VmVariable}
    (h : table.Honest) (taken : List Allocation) :
    Lent vm owner taken (fun labels => labels = table.variableLabels method) (do
      let table ← VariableTable.ofTable method table
      pure (VariableTable.held table) : ExceptT ε HostM (Held HostM (List VariableEntry))) := by
  refine Lent.of_watched ((VariableTable.watched_ofTable method h taken).mono ?_)
  rintro buffer left ⟨hperm, hlabels⟩
  exact ⟨_, hperm, hlabels, VariableTable.watched_release htakes buffer⟩

end lent

/-! ### Questions -/

namespace Tool

variable {taken : List Allocation}

/-- A question is asked with the right memory out.  A question without an answer leaves the memory
as it is. -/
theorem watched_ask {query : Query} {subject : Handle} {answer : Vm → ToolM α}
    {Left : Except Status α → List Allocation → Prop}
    (hout : (labelsOf taken).Perm (vm.outAt owner query subject))
    (hfail : ∀ e, Left (.error e) taken) (hanswer : Watched vm owner taken (answer vm).run Left) :
    Watched vm owner taken (call (.query query) (.query query subject) answer).run Left := by
  rintro host rfl hperm
  rw [run_call]
  by_cases hmissing : ToolFunction.query query ∈ host.vm.missing
  · rw [if_pos hmissing]
    exact ⟨rfl, ⟨taken, hfail _, hperm⟩, [], rfl, by simp⟩
  -- the entry of the call stands before those of its answer
  have hasked : (⟨.query query subject, host.outstanding, host.pending⟩ : Entry).Bounded
      host.vm owner := by
    rintro _ _ ⟨⟩
    exact (hperm.map Allocation.label).trans hout
  rw [if_neg hmissing]
  by_cases hstatus : host.vm.statusOf (.query query) = Status.success
  · rw [if_pos hstatus]
    obtain ⟨hvm, hleft, made, hmade, hbounded⟩ :=
      hanswer (host.entered (.query query subject)) rfl hperm
    refine ⟨hvm, hleft, made ++ [_], ?_,
      List.forall_mem_append.mpr ⟨hbounded, List.forall_mem_singleton.mpr hasked⟩⟩
    rw [hmade, List.append_assoc]
    rfl
  · rw [if_neg hstatus]
    exact ⟨rfl, ⟨taken, hfail _, hperm⟩, [_], rfl, List.forall_mem_singleton.mpr hasked⟩

theorem watched_askClass {query : Query} {subject : Handle} {answer : VmClass → ToolM α}
    {Left : Except Status α → List Allocation → Prop}
    (hout : (labelsOf taken).Perm (vm.outAt owner query subject))
    (hfail : ∀ e, Left (.error e) taken)
    (hanswer : ∀ entry, vm.class? subject = some entry →
      Watched vm owner taken (answer entry).run Left) :
    Watched vm owner taken (askClass query subject answer).run Left := by
  refine watched_ask hout hfail ?_
  split
  next => exact Watched.pure (hfail _)
  next entry hentry => exact hanswer entry hentry

theorem watched_askMethod {query : Query} {subject : Handle} {answer : VmMethod → ToolM α}
    {Left : Except Status α → List Allocation → Prop}
    (hout : (labelsOf taken).Perm (vm.outAt owner query subject))
    (hfail : ∀ e, Left (.error e) taken)
    (hanswer : ∀ entry, vm.method? subject = some entry →
      Watched vm owner taken (answer entry).run Left) :
    Watched vm owner taken (askMethod query subject answer).run Left := by
  refine watched_ask hout hfail ?_
  split
  next => exact Watched.pure (hfail _)
  next entry hentry =>
    split
    next => exact hanswer entry hentry
    next => exact Watched.pure (hfail _)

/-- Information that is lacking is not handed out. -/
theorem watched_present_bind {value : Option β} {f : β → ToolM α}
    {Left : Except Status α → List Allocation → Prop} (hfail : ∀ e, Left (.error e) taken)
    (h : ∀ found, value = some found → Watched vm owner taken (f found).run Left) :
    Watched vm owner taken (present value >>= f).run Left := by
  cases value with
  | none => exact Watched.pure (hfail _)
  | some found => exact h found rfl

/-- The variable tables that a machine has are those of the methods of its classes. -/
theorem honest_of_method? (htakes : vm.TakesBack) {method : Handle} {entry : VmMethod}
    (hentry : vm.method? method = some entry) {table : Table VmVariable}
    (htable : entry.locals = some table) : table.Honest := by
  have hmem := List.mem_of_find?_eq_some hentry
  obtain ⟨parent, hparent, hrow⟩ := List.mem_flatMap.mp hmem
  exact htakes.honest parent hparent entry hrow table htable

theorem steady_modifiers {method : Handle}
    (hout : (labelsOf taken).Perm (vm.methodsLabels owner)) :
    Steady vm owner taken (introspector.modifiers method).run := by
  have hmodifiers : Steady vm owner taken (modifiers method).run :=
    watched_askMethod hout (fun _ => rfl) fun _ _ => Watched.pure rfl
  exact hmodifiers.adapt _

section

variable (htakes : vm.TakesBack)

include htakes

theorem lent_methods : Lent vm owner [] (fun labels => labels = vm.methodsLabels owner)
    (introspector.methods owner) := by
  have hmethods : Lent vm owner [] (fun labels => labels = vm.methodsLabels owner)
      (methods owner) := by
    refine watched_askClass (List.Perm.refl _) (fun _ => rfl) fun entry hentry => ?_
    unfold Vm.methodsLabels
    rw [hentry]
    exact (Buffer.lent_ofTable htakes (.methods owner) entry.methods []).map (List.map VmMethod.id)
  exact hmethods.adapt _

theorem lent_name {method : Handle} (hout : (labelsOf taken).Perm (vm.methodsLabels owner)) :
    Lent vm owner taken (fun _ => True) (introspector.name method) := by
  have hname : Lent vm owner taken (fun _ => True) (name method) :=
    watched_askMethod hout (fun _ => rfl) fun entry _ =>
      Buffer.lent_ofText htakes (.name method) entry.name taken
  exact hname.adapt _

theorem lent_locals {method : Handle} (hout : (labelsOf taken).Perm (vm.methodsLabels owner)) :
    Lent vm owner taken (fun labels => labels = vm.localsLabels method)
      (introspector.locals method) := by
  have hlocals : Lent vm owner taken (fun labels => labels = vm.localsLabels method)
      (locals method) := by
    refine watched_askMethod hout (fun _ => rfl) fun entry hentry => ?_
    refine watched_present_bind (fun _ => rfl) fun table htable => ?_
    have hhonest := honest_of_method? htakes hentry htable
    unfold Vm.localsLabels
    rw [hentry, Option.bind_some, htable]
    exact VariableTable.lent_ofTable htakes method hhonest taken
  exact (hlocals.map _).adapt _

theorem lent_lines {method : Handle}
    (hout : (labelsOf taken).Perm (vm.localsLabels method ++ vm.methodsLabels owner)) :
    Lent vm owner taken (fun _ => True) (introspector.lines method) := by
  have hlines : Lent vm owner taken (fun _ => True) (lines method) := by
    refine watched_askMethod hout (fun _ => rfl) fun entry _ => ?_
    refine watched_present_bind (fun _ => rfl) fun table _ => ?_
    exact (Buffer.lent_ofTable htakes (.lines method) table taken).weaken
  exact hlines.adapt _

theorem lent_sourceFile (subject : Handle) :
    Lent vm owner [] (fun _ => True) (introspector.sourceFile subject) := by
  have hfile : Lent vm owner [] (fun _ => True) (sourceFile subject) := by
    refine watched_askClass (List.Perm.refl _) (fun _ => rfl) fun entry _ => ?_
    refine watched_present_bind (fun _ => rfl) fun text _ => ?_
    exact Buffer.lent_ofText htakes (.sourceFile subject) text []
  exact hfile.adapt _

/-! ### A scan -/

theorem steady_hasName {method : Handle} (hout : (labelsOf taken).Perm (vm.methodsLabels owner))
    (entry : String) : Steady vm owner taken (introspector.hasName entry method).run :=
  (lent_name htakes hout).use fun _ _ _ => Watched.pure rfl

/-- The variable table is out while the line table is asked for, and no other table is. -/
theorem steady_measure {method : Handle} (hout : (labelsOf taken).Perm (vm.methodsLabels owner))
    (entry : String) : Steady vm owner taken (introspector.measure entry method).run := by
  refine (lent_locals htakes hout).use fun scopes memory hmemory => ?_
  have hboth : (labelsOf (memory ++ taken)).Perm
      (vm.localsLabels method ++ vm.methodsLabels owner) := by
    rw [labelsOf, List.map_append, ← hmemory]
    exact hout.append_left _
  refine (lent_lines htakes hboth).use fun rows memory _ => ?_
  exact Steady.report_bind _ (Watched.pure rfl)

theorem steady_candidate {method : Handle}
    (hout : (labelsOf taken).Perm (vm.methodsLabels owner)) (entry : String) :
    Steady vm owner taken (introspector.candidate entry method).run := by
  refine (steady_modifiers hout).except_bind fun modifiers => ?_
  split
  next => exact Watched.pure rfl
  next =>
    refine (steady_hasName htakes hout entry).except_bind fun named => ?_
    split
    next => exact steady_measure htakes hout entry
    next => exact Watched.pure rfl

/-- A scan over any number of methods leaves the memory as it is. -/
theorem steady_scan (hout : (labelsOf taken).Perm (vm.methodsLabels owner)) (entry : String)
    (methods : List Handle) : Steady vm owner taken (introspector.scan entry methods).run := by
  induction methods with
  | nil => exact Watched.pure rfl
  | cons method methods ih =>
    rw [Introspector.scan_cons]
    refine (steady_candidate htakes hout entry).except_bind fun selection => ?_
    cases selection with
    | none => exact ih
    | some selection => exact Watched.pure rfl

theorem steady_select (entry : String) :
    Steady vm owner [] (introspector.select entry owner).run := by
  refine (lent_methods htakes).use fun methods memory hmemory => ?_
  have hout : (labelsOf (memory ++ [])).Perm (vm.methodsLabels owner) := by
    rw [List.append_nil, hmemory]
  exact steady_scan htakes hout entry methods

theorem steady_resolve (entry : String) :
    Steady vm owner [] (introspector.resolve entry owner).run := by
  refine ((steady_select htakes entry).adapt _).except_bind fun selection => ?_
  cases selection with
  | none => exact Watched.pure rfl
  | some selection =>
    refine ((lent_sourceFile htakes owner).adapt _).use fun name memory _ => ?_
    exact Steady.report_bind _ (Watched.pure rfl)

end

/-- **The memory that is out during a scan is bounded by one method.**  On a machine that takes
memory back, from a state in which nothing is out: whenever modifiers, a name or a variable table is
asked for, the methods of the class are out and nothing else; whenever a line table is asked for,
the variable table of this method is out besides, with all of its texts; and when the source file is
asked for, nothing is out.  Nothing is out at the end. -/
theorem footprint_resolve {host : Host} (htakes : host.vm.TakesBack)
    (hnone : host.outstanding = []) (entry : String) (owner : Handle) :
    ∃ made, ((introspector.resolve entry owner).run.run host).2.journal = made ++ host.journal ∧
      (∀ call ∈ made, call.Bounded host.vm owner) ∧
      ((introspector.resolve entry owner).run.run host).2.outstanding = [] := by
  have hout : host.outstanding.Perm [] := List.Perm.of_eq hnone
  obtain ⟨-, ⟨left, rfl, hleft⟩, made, hmade, hbounded⟩ :=
    steady_resolve htakes entry host rfl hout
  exact ⟨made, hmade, hbounded, hleft.eq_nil⟩

/-- A machine with one class: a bridge, an overload whose code was all inlined, and one with a line
of its own.  A text of a variable is a null pointer. -/
def withOverloads : Vm where
  classes := [{
    id := 7, sourceFile := some (some (utf8 "A.kt"))
    methods := { rows := [
      { id := 8, modifiers := 0x41, name := some (utf8 "invoke") },
      { id := 9, modifiers := 1, name := some (utf8 "invoke"), lines := some { rows := [⟨0, 40⟩] }
        locals := some { rows := [
          { name := some (utf8 "$i$f$run"), start := 0, length := 8, signature := some (utf8 "I") },
          { name := none, start := 0, length := 8, signature := some (utf8 "LA;"),
            generic := some (utf8 "LA<*>;") }] } },
      { id := 10, modifiers := 1, name := some (utf8 "invoke"), lines := some { rows := [⟨0, 3⟩] }
        locals := some { rows := [] } }] } }]

/-- What was out when this was called. -/
def outWhen (call : Call) (host : Host) : List (List Label) :=
  host.journal.filterMap fun entry =>
    if entry.call = call then some (labelsOf entry.outstanding) else none

/-- The tables of the first overload are not out any more when the second is measured. -/
theorem footprint_resolve_withOverloads :
    (∃ made, ((introspector.resolve "invoke" 7).run.run { vm := withOverloads }).2.journal =
        made ++ [] ∧ (∀ call ∈ made, call.Bounded withOverloads 7) ∧
      ((introspector.resolve "invoke" 7).run.run { vm := withOverloads }).2.outstanding = []) ∧
    outWhen (.query .lines 9)
        ((introspector.resolve "invoke" 7).run.run { vm := withOverloads }).2 =
      [[.locals 9, .variableGeneric 9 1, .variableSignature 9 1, .variableSignature 9 0,
        .variableName 9 0, .methods 7]] ∧
    outWhen (.query .lines 10)
        ((introspector.resolve "invoke" 7).run.run { vm := withOverloads }).2 =
      [[.locals 10, .methods 7]] ∧
    outWhen (.query .sourceFile 7)
        ((introspector.resolve "invoke" 7).run.run { vm := withOverloads }).2 = [[]] := by
  have htakes : withOverloads.TakesBack := by
    refine ⟨by decide, by decide, ?_⟩
    unfold Table.Honest
    decide +kernel
  have hnone : ({ vm := withOverloads } : Host).outstanding = [] := rfl
  refine ⟨footprint_resolve htakes hnone "invoke" 7, ?_⟩
  decide +kernel

end Tool
end ClosureSpan
