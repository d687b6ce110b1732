import ClosureSpan.Proofs.Vm.Ownership
import ClosureSpan.Location

/-!
# What the machine hands out comes back

Every buffer that a question hands out is lent: giving it back gives back all of its memory.  A scan
uses what it is lent and nothing else, so it leaves nothing, at whatever question it ends.

## Main definitions

* `VariableEntry.memory` — the memory of a row of a local variable table.
* `Introspector.Lending` — a source of method metadata that lends what it hands out.

## Main results

* `VariableTable.lends_ofTable` — a local variable table is lent with the texts of all its rows.
* `Introspector.Lending.resolve` — **locating a class leaves nothing.**
* `Tool.introspector_lending` — a machine that takes memory back lends what it hands out.
-/

namespace ClosureSpan

variable {α β ρ : Type}

/-! ### Triples up to order -/

namespace Turns

variable {taken : List Allocation} {x : HostM α} {Left : α → List Allocation → Prop}

theorem of_perm {taken' : List Allocation} (h : Turns taken x Left)
    (hperm : taken'.Perm taken) : Turns taken' x Left :=
  fun host others horderly hout => h host others horderly (hout.trans (hperm.append_right others))

/-- First some memory is given back, and then the rest is used. -/
theorem given_back_then {first rest : List Allocation} {x : HostM Unit} {y : HostM β}
    {After : β → List Allocation → Prop} (hx : Turns first x fun _ left => left = [])
    (hy : Turns rest y After) : Turns (first ++ rest) (x >>= fun _ => y) After := by
  refine (hx.frame rest).bind fun _ left hleft => ?_
  obtain ⟨_, rfl, rfl⟩ := hleft
  exact hy

end Turns

/-! ### Buffers -/

namespace Buffer

theorem turns_release (buffer : Buffer α) :
    Turns buffer.memory.toList buffer.release fun _ left => left = [] := by
  obtain ⟨memory, contents⟩ := buffer
  cases memory with
  | none => exact Turns.pure rfl
  | some allocation => exact turns_deallocate allocation

theorem turns_ofText (label : Label) (text : Option Bytes) :
    Turns [] (ofText label text) fun buffer left => left = buffer.memory.toList := by
  cases text with
  | none => exact Turns.pure rfl
  | some text =>
    refine (turns_allocate label).bind fun allocation left hleft => ?_
    exact Turns.pure hleft

theorem turns_ofTable (label : Label) (table : Table ρ) :
    Turns [] (ofTable label table) fun buffer left =>
      left = buffer.memory.toList ∧ buffer.contents = table.visible := by
  unfold ofTable
  split
  next hnull => exact Turns.pure ⟨rfl, by rw [Table.visible, if_pos hnull]⟩
  next =>
    refine (turns_allocate label).bind fun allocation left hleft => ?_
    exact Turns.pure ⟨hleft, rfl⟩

theorem owns_held (buffer : Buffer α) : buffer.held.Owns buffer.memory.toList :=
  buffer.turns_release

end Buffer

/-! ### Local variable tables -/

namespace VariableEntry

/-- The memory of the texts of a row. -/
def memory (entry : VariableEntry) : List Allocation :=
  entry.name.memory.toList ++ (entry.signature.memory.toList ++ entry.generic.memory.toList)

theorem turns_ofRow (method : Handle) (index : Nat) (row : VmVariable) :
    Turns [] (ofRow method index row) fun entry left => left.Perm entry.memory := by
  refine (Buffer.turns_ofText _ _).bind fun name left hname => ?_
  subst hname
  refine ((Buffer.turns_ofText _ _).frame _).bind fun signature left hleft => ?_
  obtain ⟨_, rfl, rfl⟩ := hleft
  refine ((Buffer.turns_ofText _ _).frame _).bind fun generic left hleft => ?_
  obtain ⟨_, rfl, rfl⟩ := hleft
  refine Turns.pure (List.perm_append_comm.trans ?_)
  exact (List.perm_append_comm.append_right _).trans (List.Perm.of_eq (List.append_assoc _ _ _))

/-- Rows are handed out one for one. -/
theorem turns_ofRows (method : Handle) (rows : List VmVariable) (index : Nat) :
    Turns [] (ofRows method index rows) fun entries left =>
      entries.length = rows.length ∧ left.Perm (entries.flatMap memory) := by
  induction rows generalizing index with
  | nil => exact Turns.pure ⟨rfl, List.Perm.refl _⟩
  | cons row rows ih =>
    refine (turns_ofRow method index row).bind fun entry left hentry => ?_
    refine ((ih (index + 1)).frame left).bind fun entries all hall => ?_
    obtain ⟨left', ⟨hlength, hentries⟩, rfl⟩ := hall
    refine Turns.pure ⟨by simp [hlength], ?_⟩
    exact (hentries.append hentry).trans List.perm_append_comm

theorem turns_release (entry : VariableEntry) :
    Turns entry.memory entry.release fun _ left => left = [] :=
  (entry.name.turns_release).given_back_then <|
    (entry.signature.turns_release).given_back_then entry.generic.turns_release

theorem turns_releaseAll (entries : List VariableEntry) :
    Turns (entries.flatMap memory) (releaseAll entries) fun _ left => left = [] := by
  induction entries with
  | nil => exact Turns.pure rfl
  | cons entry entries ih => exact entry.turns_release.given_back_then ih

end VariableEntry

/-- All rows of a table can be seen if their number is reported truly. -/
theorem Table.visible_eq_rows {table : Table ρ} (hnull : table.null = false)
    (hcount : table.count.getD table.rows.length = table.rows.length) :
    table.visible = table.rows := by
  rw [Table.visible, hnull, hcount, if_neg Bool.false_ne_true, Int.toNat_natCast, List.take_length]

namespace VariableTable

/-- The texts of all rows come back with the table only because all rows can be seen. -/
theorem turns_ofTable (method : Handle) {table : Table VmVariable} (h : table.Honest) :
    Turns [] (ofTable method table) fun buffer left =>
      left.Perm (buffer.contents.flatMap VariableEntry.memory ++ buffer.memory.toList) := by
  unfold ofTable
  split
  next => exact Turns.pure (List.Perm.refl _)
  next hnull =>
    have hcount := h.resolve_left hnull
    refine (VariableEntry.turns_ofRows method table.rows 0).bind fun entries left hleft => ?_
    obtain ⟨hlength, hentries⟩ := hleft
    refine ((Buffer.turns_ofTable _ _).frame left).mono fun buffer all hall => ?_
    obtain ⟨_, ⟨rfl, hcontents⟩, rfl⟩ := hall
    -- a short report would lose the texts of the last rows
    have hvisible : buffer.contents = entries := by
      rw [hcontents]
      exact Table.visible_eq_rows rfl (by rw [hlength]; exact hcount)
    rw [hvisible]
    exact (hentries.append_left _).trans List.perm_append_comm

theorem turns_release (table : VariableTable) :
    Turns (table.contents.flatMap VariableEntry.memory ++ table.memory.toList) (release table)
      fun _ left => left = [] :=
  (VariableEntry.turns_releaseAll table.contents).given_back_then (Buffer.turns_release table)

end VariableTable
/-! ### Lending a buffer -/

theorem Held.Owns.of_perm {held : Held HostM α} {mem mem' : List Allocation} (h : held.Owns mem)
    (hperm : mem'.Perm mem) : held.Owns mem' := Turns.of_perm h hperm

namespace Lends

variable {ε : Type}

theorem map {acquire : ExceptT ε HostM (Held HostM α)} (h : Lends acquire) (f : α → β) :
    Lends (Held.map f <$> acquire) := Tidy.map h fun _ _ howns => howns.map f

theorem adapt {ε' : Type} {acquire : ExceptT ε HostM (Held HostM α)} (h : Lends acquire)
    (f : ε → ε') : Lends (acquire.adapt f) := Tidy.adapt h f

end Lends

theorem Buffer.lends_ofText {ε : Type} (label : Label) (text : Option Bytes) :
    Lends (do
      let buffer ← Buffer.ofText label text
      pure buffer.held : ExceptT ε HostM (Held HostM Bytes)) := by
  refine Tidy.bind_pure (Tidy.lift (Buffer.turns_ofText label text)) fun buffer left hleft => ?_
  rw [hleft]
  exact buffer.owns_held

theorem Buffer.lends_ofTable {ε : Type} (label : Label) (table : Table ρ) :
    Lends (do
      let buffer ← Buffer.ofTable label table
      pure buffer.held : ExceptT ε HostM (Held HostM (List ρ))) := by
  refine Tidy.bind_pure (Tidy.lift (Buffer.turns_ofTable label table)) fun buffer left hleft => ?_
  rw [hleft.1]
  exact buffer.owns_held

/-- A local variable table is lent with the texts of all its rows. -/
theorem VariableTable.lends_ofTable {ε : Type} (method : Handle) {table : Table VmVariable}
    (h : table.Honest) :
    Lends (do
      let table ← VariableTable.ofTable method table
      pure (VariableTable.held table) : ExceptT ε HostM (Held HostM (List VariableEntry))) := by
  have htable := VariableTable.turns_ofTable method h
  refine Tidy.bind_pure (Tidy.lift htable) fun table left hleft => ?_
  exact Held.Owns.of_perm (VariableTable.turns_release table) hleft

/-! ### Sources that lend -/

/-- A source of method metadata that lends what it hands out, and leaves nothing otherwise. -/
structure Introspector.Lending {κ μ : Type} (source : Introspector HostM κ μ) : Prop where
  methods : ∀ owner, Lends (source.methods owner)
  modifiers : ∀ method, Clean (source.modifiers method)
  name : ∀ method, Lends (source.name method)
  locals : ∀ method, Lends (source.locals method)
  lines : ∀ method, Lends (source.lines method)
  sourceFile : ∀ owner, Lends (source.sourceFile owner)
  report : ∀ event, Quiet (source.report event)

namespace Introspector.Lending

variable {κ μ : Type} {source : Introspector HostM κ μ}

theorem hasName (h : source.Lending) (entry : String) (method : μ) :
    Clean (source.hasName entry method) :=
  (h.name method).use fun _ => Tidy.pure rfl

theorem measure (h : source.Lending) (entry : String) (method : μ) :
    Clean (source.measure entry method) := by
  -- the variable table is held while the line table is asked for
  refine (h.locals method).use fun scopes => (h.lines method).use fun rows => ?_
  exact (Clean.ofQuiet (h.report _)).bind fun _ => Tidy.pure rfl

theorem candidate (h : source.Lending) (entry : String) (method : μ) :
    Clean (source.candidate entry method) := by
  refine (h.modifiers method).bind fun modifiers => ?_
  split
  next => exact Tidy.pure rfl
  next =>
    refine (h.hasName entry method).bind fun named => ?_
    split
    next => exact h.measure entry method
    next => exact Tidy.pure rfl

/-- The scan may end at any question and at any method. -/
theorem scan (h : source.Lending) (entry : String) (methods : List μ) :
    Clean (source.scan entry methods) := by
  induction methods with
  | nil => exact Tidy.pure rfl
  | cons method rest ih =>
    rw [scan_cons]
    refine (h.candidate entry method).bind fun selection => ?_
    cases selection with
    | none => exact ih
    | some selection => exact Tidy.pure rfl

theorem select (h : source.Lending) (entry : String) (owner : κ) :
    Clean (source.select entry owner) :=
  (h.methods owner).use (h.scan entry)

/-- **Locating a class leaves nothing**, whatever it ends with. -/
theorem resolve (h : source.Lending) (entry : String) (owner : κ) :
    Clean (source.resolve entry owner) := by
  refine Clean.bind (Tidy.adapt (h.select entry owner) _) fun selection => ?_
  cases selection with
  | none => exact Tidy.throw _
  | some selection =>
    refine ((h.sourceFile owner).adapt _).use fun name => ?_
    exact (Clean.ofQuiet (h.report _)).bind fun _ => Tidy.pure rfl

end Introspector.Lending

/-! ### The tool interface -/

/-- What is read off the state of the machine may be used. -/
theorem Tidy.get_bind {ε : Type} {f : Host → ExceptT ε HostM α}
    {Left : α → List Allocation → Prop} (hf : ∀ host, host.Orderly → Tidy (f host) Left) :
    Tidy (getThe Host >>= f) Left := by
  change Turns [] ((get : HostM Host) >>= fun host => (f host).run) _
  refine turns_get.bind fun host left hleft => ?_
  obtain ⟨horderly, rfl⟩ := hleft
  exact hf host horderly

namespace Tool

/-- A call does what its answer does, if it comes to an answer. -/
theorem tidy_call {function : ToolFunction} {entry : Call} {answer : Vm → ToolM α}
    {Left : α → List Allocation → Prop} (hentry : ∀ label, entry ≠ .deallocate label)
    (h : ∀ vm, vm.TakesBack → Tidy (answer vm) Left) : Tidy (call function entry answer) Left := by
  unfold call
  refine Tidy.get_bind fun host horderly => ?_
  dsimp only
  split
  next => exact Tidy.throw _
  next =>
    refine Tidy.bind (Clean.ofQuiet (turns_record hentry)) fun _ => ?_
    split
    next => exact h host.vm horderly.takesBack
    next => exact Tidy.throw _

theorem tidy_askClass {query : Query} {owner : Handle} {answer : VmClass → ToolM α}
    {Left : α → List Allocation → Prop} (h : ∀ entry, Tidy (answer entry) Left) :
    Tidy (askClass query owner answer) Left := by
  refine tidy_call (fun _ => nofun) fun vm _ => ?_
  split
  next => exact Tidy.throw _
  next entry _ => exact h entry

theorem tidy_askMethod {query : Query} {method : Handle} {answer : VmMethod → ToolM α}
    {Left : α → List Allocation → Prop}
    (h : ∀ entry, (∀ table, entry.locals = some table → table.Honest) → Tidy (answer entry) Left) :
    Tidy (askMethod query method answer) Left := by
  refine tidy_call (fun _ => nofun) fun vm htakes => ?_
  split
  next => exact Tidy.throw _
  next entry hentry =>
    split
    next =>
      refine h entry fun table htable => ?_
      have hmem := List.mem_of_find?_eq_some hentry
      obtain ⟨owner, howner, hrow⟩ := List.mem_flatMap.mp hmem
      exact htakes.honest owner howner entry hrow table htable
    next => exact Tidy.throw _

/-- Information that is lacking is not handed out. -/
theorem tidy_present_bind {value : Option β} {f : β → ToolM α} {Left : α → List Allocation → Prop}
    (h : ∀ found, value = some found → Tidy (f found) Left) :
    Tidy (present value >>= f) Left := by
  cases value with
  | none => exact Tidy.throw _
  | some found => exact h found rfl

theorem lends_methods (owner : Handle) : Lends (methods owner) :=
  tidy_askClass fun entry => (Buffer.lends_ofTable _ entry.methods).map (List.map VmMethod.id)

theorem clean_modifiers (method : Handle) : Clean (modifiers method) :=
  tidy_askMethod fun _ _ => Tidy.pure rfl

theorem lends_name (method : Handle) : Lends (name method) :=
  tidy_askMethod fun entry _ => Buffer.lends_ofText _ entry.name

theorem lends_locals (method : Handle) : Lends (locals method) :=
  tidy_askMethod fun _ hlocals => tidy_present_bind fun table htable =>
    VariableTable.lends_ofTable method (hlocals table htable)

theorem lends_lines (method : Handle) : Lends (lines method) :=
  tidy_askMethod fun _ _ => tidy_present_bind fun table _ => Buffer.lends_ofTable _ table

theorem lends_sourceFile (owner : Handle) : Lends (sourceFile owner) :=
  tidy_askClass fun _ => tidy_present_bind fun text _ => Buffer.lends_ofText _ text

theorem lends_errorNameBuffer (status : Status) : Lends (errorNameBuffer status) := by
  refine tidy_call (fun _ => nofun) fun vm _ => ?_
  split
  next => exact Tidy.throw _
  next text _ => exact Buffer.lends_ofText _ text

theorem quiet_errorName (status : Status) : Quiet (errorName status) := by
  have hname := clean_iff_quiet.mp <|
    (lends_errorNameBuffer status).use fun name => Tidy.pure (a := ModifiedUtf8.decode name) rfl
  refine Quiet.bind hname fun outcome => ?_
  cases outcome <;> exact Quiet.pure _

/-- A machine that takes memory back lends what it hands out. -/
theorem introspector_lending : introspector.Lending where
  methods owner := (lends_methods owner).adapt _
  modifiers method := Tidy.adapt (clean_modifiers method) _
  name method := (lends_name method).adapt _
  locals method := ((lends_locals method).map _).adapt _
  lines method := (lends_lines method).adapt _
  sourceFile owner := (lends_sourceFile owner).adapt _
  report := turns_report

end Tool
end ClosureSpan
