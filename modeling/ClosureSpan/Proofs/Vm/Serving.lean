import Mathlib.Data.List.Nodup
import ClosureSpan.ClassSet
import ClosureSpan.Proofs.Text.Codec
import ClosureSpan.Proofs.Vm.Agreement
import ClosureSpan.Vm.ToolInterface

/-!
# A machine that serves class files

A machine may serve the data of a class set: the same methods in the same order, the same tables,
and all texts in modified UTF-8, where the class set has decoded texts.  Whoever asks such a machine
for the location of a class gets what the class set says.

## Main definitions

* `VmMethod.Serves`, `VmClass.Serves`, `Vm.Serves` — the machine serves the data of a class set.

## Main results

* `Tool.introspector_simulates` — the answers of the machine belong to those of the class set.
* `Tool.resolve_eq` — **machine and class set locate a class in the same way.**
-/

namespace ClosureSpan

variable {α β γ : Type}

/-! ### Serving -/

/-- A question is answered with a table of the wanted rows, or, if none are wanted, with the word
that the information is absent: by status, or for lack of a table. -/
def Reports (Same : α → β → Prop) (status : Status) (table : Option α) (wanted : Option β) : Prop :=
  match wanted with
  | some rows => status = Status.success ∧ ∃ found, table = some found ∧ Same found rows
  | none => status = Status.absentInformation ∨ status = Status.success ∧ table = none

/-- The name and the code of a row of the machine. -/
def VmVariable.scope (row : VmVariable) : Scope := ⟨row.name.getD [], row.start, row.length⟩

/-- The name and the code of a row, the name as a machine writes it. -/
def VariableRow.written (row : VariableRow) : Scope :=
  ⟨ModifiedUtf8.encode row.name, row.start, row.length⟩

/-- The machine serves a method with the data of a method of a class file. -/
structure VmMethod.Serves (method : VmMethod) (info : MethodInfo) : Prop where
  /-- Its modifiers are told. -/
  modifiers : method.statusOf .modifiers = Status.success ∧ method.modifiers = info.accessFlags
  /-- Its name is told in modified UTF-8. -/
  name : method.statusOf .name = Status.success ∧
    method.name = some (ModifiedUtf8.encode info.name)
  /-- Its local variable table has the same rows. -/
  locals : Reports
    (fun table rows => table.visible.map VmVariable.scope = rows.map VariableRow.written)
    (method.statusOf .locals) method.locals info.locals
  /-- Its line table has the same rows. -/
  lines : Reports (fun table rows => table.visible = rows) (method.statusOf .lines) method.lines
    info.lines

/-- The machine serves a class with the data of a class file. -/
structure VmClass.Serves (entry : VmClass) (file : ClassFile) : Prop where
  /-- The methods are the same, in the same order. -/
  methods : List.Forall₂ VmMethod.Serves entry.methods.visible file.methods.toList
  /-- Its source file is told in modified UTF-8. -/
  sourceFile : entry.sourceFile = file.sourceFile.map fun name => some (ModifiedUtf8.encode name)

/-- The machine serves the classes of a set, each under its handle, and nothing under the handles of
other numbers. -/
structure Vm.Serves (vm : Vm) (set : ClassSet) (handle : Nat → Handle) : Prop where
  /-- All questions can be asked. -/
  present : ∀ query, ToolFunction.query query ∉ vm.missing
  /-- No question is refused as such. -/
  succeeds : ∀ query, vm.statusOf (.query query) = Status.success
  /-- No two methods have the same handle. -/
  distinct : ((vm.classes.flatMap fun entry => entry.methods.rows).map VmMethod.id).Nodup
  /-- The classes of the set are served. -/
  known : ∀ owner file, set.get? owner = some file →
    ∃ entry, vm.class? (handle owner) = some entry ∧ entry.Serves file
  /-- No other class is. -/
  unknown : ∀ owner, set.get? owner = none → vm.class? (handle owner) = none

/-! ### Methods by handle -/

theorem Table.visible_subset {ρ : Type} (table : Table ρ) : table.visible ⊆ table.rows := by
  unfold Table.visible
  split
  next => exact List.nil_subset _
  next => exact List.take_subset _ _

/-- Among methods with distinct handles, each is found by its own. -/
theorem find_id_eq_some {methods : List VmMethod} (h : (methods.map VmMethod.id).Nodup)
    {method : VmMethod} (hmem : method ∈ methods) :
    methods.find? (fun entry => entry.id = method.id) = some method := by
  have hsome : (methods.find? fun entry => entry.id = method.id).isSome :=
    List.find?_isSome.mpr ⟨method, hmem, by simp⟩
  obtain ⟨found, hfound⟩ := Option.isSome_iff_exists.mp hsome
  have hid : found.id = method.id := of_decide_eq_true (List.find?_some hfound :)
  rw [hfound, List.inj_on_of_nodup_map h (List.mem_of_find?_eq_some hfound) hmem hid]

/-- The machine finds a method that the class set has at this place, with the same data. -/
def SameMethod (vm : Vm) (set : ClassSet) (method : Handle) (ref : ClassSet.MethodRef) : Prop :=
  ∃ entry info, vm.method? method = some entry ∧ entry.Serves info ∧
    ∀ query, set.methodFor query ref = .ok info

theorem Vm.Serves.sameMethods {vm : Vm} {set : ClassSet} {handle : Nat → Handle}
    (h : vm.Serves set handle) {owner : Nat} {file : ClassFile}
    (hfile : set.get? owner = some file) {entry : VmClass}
    (hentry : vm.class? (handle owner) = some entry) (hserves : entry.Serves file) :
    List.Forall₂ (SameMethod vm set) (entry.methods.visible.map VmMethod.id)
      ((List.range file.methods.size).map fun index => ⟨owner, index⟩) := by
  have hlength := hserves.methods.length_eq
  -- both lists are compared place by place, since one of them holds places only
  rw [List.forall₂_iff_get]
  refine ⟨by simpa using hlength, fun index hmethod href => ?_⟩
  rw [List.length_map] at hmethod
  rw [List.length_map, List.length_range] at href
  have hmem : entry.methods.visible[index] ∈
      vm.classes.flatMap fun entry => entry.methods.rows :=
    List.mem_flatMap.mpr ⟨entry, List.mem_of_find?_eq_some hentry,
      entry.methods.visible_subset (List.getElem_mem hmethod)⟩
  refine ⟨entry.methods.visible[index], file.methods[index], ?_, ?_, fun query => ?_⟩
  · rw [List.get_eq_getElem, List.getElem_map]
    exact find_id_eq_some h.distinct hmem
  · exact (List.forall₂_iff_get.mp hserves.methods).2 index hmethod (by simpa using href)
  · simp [ClassSet.methodFor, ClassSet.classFor, hfile, href, bind, Except.bind]

/-! ### What buffers read -/

namespace Buffer

theorem keeps_release (buffer : Buffer α) : Keeps buffer.release := by
  unfold release
  split
  next => exact Keeps.pure _
  next allocation _ => exact Keeps.deallocate allocation

theorem gives_ofText (label : Label) (text : Option Bytes) :
    Gives (ofText label text) fun buffer => buffer.contents = text.getD [] := by
  cases text with
  | none => exact Gives.pure rfl
  | some text => exact Gives.bind (Keeps.allocate label) fun _ _ => Gives.pure rfl

theorem gives_ofTable {ρ : Type} (label : Label) (table : Table ρ) :
    Gives (ofTable label table) fun buffer => buffer.contents = table.visible := by
  unfold ofTable
  split
  next hnull => exact Gives.pure (by rw [Table.visible, if_pos hnull])
  next => exact Gives.bind (Keeps.allocate label) fun _ _ => Gives.pure rfl

end Buffer

namespace VariableEntry

theorem gives_ofRow (method : Handle) (index : Nat) (row : VmVariable) :
    Gives (ofRow method index row) fun entry => entry.scope = row.scope := by
  refine (Buffer.gives_ofText _ _).bind fun name hname => ?_
  refine (Buffer.gives_ofText _ _).bind fun signature _ => ?_
  refine (Buffer.gives_ofText _ _).bind fun generic _ => ?_
  exact Gives.pure (by rw [scope, VmVariable.scope, hname])

theorem gives_ofRows (method : Handle) (rows : List VmVariable) (index : Nat) :
    Gives (ofRows method index rows) fun entries =>
      entries.map scope = rows.map VmVariable.scope := by
  induction rows generalizing index with
  | nil => exact Gives.pure rfl
  | cons row rows ih =>
    refine (gives_ofRow method index row).bind fun entry hentry => ?_
    refine (ih (index + 1)).bind fun entries hentries => Gives.pure ?_
    rw [List.map_cons, List.map_cons, hentry, hentries]

theorem keeps_releaseAll (entries : List VariableEntry) : Keeps (releaseAll entries) := by
  induction entries with
  | nil => exact Keeps.pure _
  | cons entry entries ih =>
    have hentry : Keeps entry.release :=
      entry.name.keeps_release.bind fun _ => entry.signature.keeps_release.bind fun _ =>
        entry.generic.keeps_release
    exact hentry.bind fun _ => ih

end VariableEntry

namespace VariableTable

theorem keeps_release (table : VariableTable) : Keeps (release table) :=
  (VariableEntry.keeps_releaseAll table.contents).bind fun _ => Buffer.keeps_release table

/-- The rows that can be seen are the first rows, however many are reported. -/
theorem gives_ofTable (method : Handle) (table : Table VmVariable) :
    Gives (ofTable method table) fun buffer =>
      buffer.contents.map VariableEntry.scope = table.visible.map VmVariable.scope := by
  unfold ofTable
  split
  next hnull => exact Gives.pure (by rw [Table.visible, if_pos hnull]; rfl)
  next hnull =>
    refine (VariableEntry.gives_ofRows method table.rows 0).bind fun entries hentries => ?_
    have hlength : entries.length = table.rows.length := by
      simpa using congrArg List.length hentries
    refine (Buffer.gives_ofTable _ _).mono fun buffer hcontents => ?_
    rw [hcontents, Table.visible, Table.visible, if_neg hnull,
      if_neg Bool.false_ne_true, List.map_take, List.map_take, hentries, hlength]

end VariableTable

/-! ### Answers of the machine -/

namespace Tool

variable {vm : Vm} {set : ClassSet} {handle : Nat → Handle} {R : α → β → Prop}

theorem agrees_call {function : ToolFunction} {entry : Call} {answer : Vm → ToolM α}
    {y : ExceptT Status Id β} (hpresent : function ∉ vm.missing)
    (hsucceeds : vm.statusOf function = Status.success) (h : Agrees vm R (answer vm) y) :
    Agrees vm R (call function entry answer) y := by
  rintro host rfl
  have hrun : (call function entry answer).run.run host =
      (answer host.vm).run.run ((Host.record entry).run host).2 := by
    change StateT.run (ExceptT.run (if function ∈ host.vm.missing then _ else
      liftM (Host.record entry) >>= fun _ =>
        if host.vm.statusOf function = Status.success then _ else _)) host = _
    rw [if_neg hpresent, if_pos hsucceeds]
    rfl
  rw [hrun]
  exact h _ rfl

theorem agrees_askClass {query : Query} {owner : Handle} {entry : VmClass}
    {answer : VmClass → ToolM α} {y : ExceptT Status Id β} (h : vm.Serves set handle)
    (hentry : vm.class? owner = some entry) (hanswer : Agrees vm R (answer entry) y) :
    Agrees vm R (askClass query owner answer) y := by
  refine agrees_call (h.present query) (h.succeeds query) ?_
  rw [hentry]
  exact hanswer

theorem agrees_askClass_unknown {query : Query} {owner : Handle} {answer : VmClass → ToolM α}
    (h : vm.Serves set handle) (hentry : vm.class? owner = none) :
    Agrees vm R (askClass query owner answer) (throw Status.invalidClass) := by
  refine agrees_call (h.present query) (h.succeeds query) ?_
  rw [hentry]
  exact Agrees.throw _

theorem agrees_askMethod {query : Query} {method : Handle} {entry : VmMethod}
    {answer : VmMethod → ToolM α} {y : ExceptT Status Id β} (h : vm.Serves set handle)
    (hentry : vm.method? method = some entry) (hstatus : entry.statusOf query = Status.success)
    (hanswer : Agrees vm R (answer entry) y) : Agrees vm R (askMethod query method answer) y := by
  refine agrees_call (h.present query) (h.succeeds query) ?_
  rw [hentry]
  dsimp only
  rw [if_pos hstatus]
  exact hanswer

theorem agrees_askMethod_refused {query : Query} {method : Handle} {entry : VmMethod}
    {answer : VmMethod → ToolM α} (h : vm.Serves set handle)
    (hentry : vm.method? method = some entry) (hstatus : entry.statusOf query ≠ Status.success) :
    Agrees vm R (askMethod query method answer) (throw (entry.statusOf query)) := by
  refine agrees_call (h.present query) (h.succeeds query) ?_
  rw [hentry]
  dsimp only
  rw [if_neg hstatus]
  exact Agrees.throw _

theorem present_some_bind (value : α) (f : α → ToolM β) : present (some value) >>= f = f value :=
  rfl

/-- A table is handed out, or reported as absent. -/
theorem agrees_table {ρ τ : Type} {Same : τ → ρ → Prop} {query : Query} {method : Handle}
    {entry : VmMethod} {table : VmMethod → Option τ} {body : τ → ToolM α} {wanted : Option ρ}
    {y : ρ → ExceptT Status Id β} (h : vm.Serves set handle)
    (hentry : vm.method? method = some entry)
    (hreports : Reports Same (entry.statusOf query) (table entry) wanted)
    (hbody : ∀ found rows, Same found rows → Agrees vm R (body found) (y rows)) :
    Agrees vm R (askMethod query method fun entry => present (table entry) >>= body)
      (wanted.elim (throw Status.absentInformation) y) := by
  cases wanted with
  | none =>
    -- the machine refuses the question itself, or has no table to answer it with
    rcases hreports with hstatus | ⟨hstatus, hnone⟩
    · have hrefused : entry.statusOf query ≠ Status.success := by
        rw [hstatus]
        decide
      have hagrees : Agrees vm R
          (askMethod query method fun entry => present (table entry) >>= body)
          (throw (entry.statusOf query)) := agrees_askMethod_refused h hentry hrefused
      rwa [hstatus] at hagrees
    · refine agrees_askMethod h hentry hstatus ?_
      rw [hnone]
      exact Agrees.throw _
  | some rows =>
    obtain ⟨hstatus, found, hfound, hsame⟩ := hreports
    refine agrees_askMethod h hentry hstatus ?_
    rw [hfound]
    exact hbody found rows hsame

/-! ### The six answers -/

/-- A class set finds a table where it is wanted, and reports it as absent otherwise. -/
theorem answered_present {ρ : Type} (query : Query) (f : ρ → β) (wanted : Option ρ) :
    ClassSet.answered f (ClassSet.present query wanted) =
      (wanted.elim (throw Status.absentInformation) fun value => pure (Held.owned (f value)) :
        ExceptT Status Id (Held Id β)).adapt (QueryError.ofStatus query) := by
  cases wanted <;> rfl

variable {method : Handle} {ref : ClassSet.MethodRef}

theorem agrees_modifiers (h : vm.Serves set handle) (hmethod : SameMethod vm set method ref) :
    Agrees vm Eq (introspector.modifiers method) (set.introspector.modifiers ref) := by
  obtain ⟨entry, info, hentry, hserves, hinfo⟩ := hmethod
  have hset : set.introspector.modifiers ref =
      (pure (info.accessFlags : Int) : ExceptT Status Id Int).adapt
        (QueryError.ofStatus .modifiers) := by
    change ExceptT.mk (pure (set.modifiers ref)) = _
    rw [ClassSet.modifiers, hinfo]
    rfl
  rw [hset]
  refine (agrees_askMethod h hentry hserves.modifiers.1 ?_).adapt _
  exact Agrees.pure hserves.modifiers.2

theorem agrees_name (h : vm.Serves set handle) (hmethod : SameMethod vm set method ref) :
    Agrees vm (Held.Related fun name name' => ∃ text,
      name = ModifiedUtf8.encode text ∧ name' = utf8 text)
      (introspector.name method) (set.introspector.name ref) := by
  obtain ⟨entry, info, hentry, hserves, hinfo⟩ := hmethod
  have hset : set.introspector.name ref =
      (pure (Held.owned (utf8 info.name)) : ExceptT Status Id (Held Id Bytes)).adapt
        (QueryError.ofStatus .name) := by
    change ClassSet.answered utf8 (set.name ref) = _
    rw [ClassSet.name, hinfo]
    rfl
  rw [hset]
  refine (agrees_askMethod h hentry hserves.name.1 ?_).adapt _
  refine Agrees.lift_bind (Buffer.gives_ofText _ _) fun buffer hcontents => Agrees.pure ?_
  rw [hserves.name.2] at hcontents
  exact ⟨⟨info.name, hcontents, rfl⟩, buffer.keeps_release⟩

theorem agrees_locals (h : vm.Serves set handle) (hmethod : SameMethod vm set method ref) :
    Agrees vm (Held.Related fun scopes scopes' => ∃ rows : List VariableRow,
      scopes = rows.map VariableRow.written ∧ scopes' = rows.map VariableRow.scope)
      (introspector.locals method) (set.introspector.locals ref) := by
  obtain ⟨entry, info, hentry, hserves, hinfo⟩ := hmethod
  have hset : set.introspector.locals ref =
      ClassSet.answered (List.map VariableRow.scope) (ClassSet.present .locals info.locals) := by
    change ClassSet.answered _ (set.locals ref) = _
    rw [ClassSet.locals, hinfo]
    rfl
  have htable : Agrees vm (Held.Related fun entries scopes => ∃ rows : List VariableRow,
      entries.map VariableEntry.scope = rows.map VariableRow.written ∧
        scopes = rows.map VariableRow.scope) (locals method)
      (info.locals.elim (throw Status.absentInformation) fun rows =>
        pure (Held.owned (rows.map VariableRow.scope))) := by
    refine agrees_table h hentry hserves.locals fun table rows hrows => ?_
    refine Agrees.lift_bind (VariableTable.gives_ofTable _ table) fun buffer hcontents =>
      Agrees.pure ?_
    exact ⟨⟨rows, hcontents.trans hrows, rfl⟩, VariableTable.keeps_release buffer⟩
  rw [hset, answered_present]
  exact (htable.map_left fun _ _ hheld => ⟨hheld.value, hheld.release⟩).adapt _

theorem agrees_lines (h : vm.Serves set handle) (hmethod : SameMethod vm set method ref) :
    Agrees vm (Held.Related Eq) (introspector.lines method) (set.introspector.lines ref) := by
  obtain ⟨entry, info, hentry, hserves, hinfo⟩ := hmethod
  have hset : set.introspector.lines ref =
      ClassSet.answered id (ClassSet.present .lines info.lines) := by
    change ClassSet.answered id (set.lines ref) = _
    rw [ClassSet.lines, hinfo]
    rfl
  rw [hset, answered_present]
  refine (agrees_table h hentry hserves.lines fun table rows hrows => ?_).adapt _
  refine Agrees.lift_bind (Buffer.gives_ofTable _ table) fun buffer hcontents => Agrees.pure ?_
  exact ⟨hcontents.trans hrows, buffer.keeps_release⟩

/-- A class that is not there is no class on either side. -/
theorem agrees_methods (h : vm.Serves set handle) (owner : Nat) :
    Agrees vm (Held.Related (List.Forall₂ (SameMethod vm set)))
      (introspector.methods (handle owner)) (set.introspector.methods owner) := by
  change Agrees vm _ _ (ClassSet.answered id (set.methods owner))
  rw [ClassSet.methods, ClassSet.classFor]
  cases hfile : set.get? owner with
  | none =>
    exact (agrees_askClass_unknown h (h.unknown owner hfile)).adapt (QueryError.ofStatus .methods)
  | some file =>
    obtain ⟨entry, hentry, hserves⟩ := h.known owner file hfile
    have hmethods := h.sameMethods hfile hentry hserves
    refine (agrees_askClass (y := pure (Held.owned _)) h hentry ?_).adapt
      (QueryError.ofStatus .methods)
    refine Agrees.lift_bind (Buffer.gives_ofTable _ _) fun buffer hcontents => Agrees.pure ?_
    refine ⟨?_, buffer.keeps_release⟩
    change List.Forall₂ _ (buffer.contents.map VmMethod.id) _
    rw [hcontents]
    exact hmethods

theorem agrees_sourceFile (h : vm.Serves set handle) (owner : Nat) :
    Agrees vm (Held.Related fun name name' => ∃ text,
      name = ModifiedUtf8.encode text ∧ name' = utf8 text)
      (introspector.sourceFile (handle owner)) (set.introspector.sourceFile owner) := by
  change Agrees vm _ _ (ClassSet.answered utf8 (set.sourceFile owner))
  rw [ClassSet.sourceFile, ClassSet.classFor]
  cases hfile : set.get? owner with
  | none =>
    exact (agrees_askClass_unknown h (h.unknown owner hfile)).adapt
      (QueryError.ofStatus .sourceFile)
  | some file =>
    obtain ⟨entry, hentry, hserves⟩ := h.known owner file hfile
    change Agrees vm _ _ (ClassSet.answered utf8 (ClassSet.present .sourceFile file.sourceFile))
    rw [answered_present]
    refine (agrees_askClass h hentry ?_).adapt _
    rw [hserves.sourceFile]
    cases file.sourceFile with
    | none => exact Agrees.throw _
    | some text =>
      rw [Option.map_some, present_some_bind]
      refine Agrees.lift_bind (Buffer.gives_ofText _ _) fun buffer hcontents => Agrees.pure ?_
      exact ⟨⟨text, hcontents, rfl⟩, buffer.keeps_release⟩

/-! ### Locations -/

/-- The names that a class set and a machine have for a method are the entry name or neither is, if
the entry name has the same bytes in both forms. -/
theorem written_eq_entry_iff {entry : String} (hentry : ∀ c ∈ entry.toList, ModifiedUtf8.Shared c)
    (text : String) : ModifiedUtf8.encode text = utf8 entry ↔ utf8 text = utf8 entry := by
  constructor
  · intro h
    rw [← ModifiedUtf8.encode_eq_utf8 hentry] at h
    rw [ModifiedUtf8.encode_injective h]
  · intro h
    have htext : text = entry := by
      rw [← ModifiedUtf8.decode_utf8 text, h, ModifiedUtf8.decode_utf8]
    rw [htext, ModifiedUtf8.encode_eq_utf8 hentry]

/-- Markers are told from other variables in either form of their names. -/
theorem inlineRanges_written (rows : List VariableRow) :
    inlineRanges (rows.map VariableRow.written) = inlineRanges (rows.map VariableRow.scope) := by
  induction rows with
  | nil => rfl
  | cons row rows ih =>
    have hmarker : isInlineMarker row.written.name = isInlineMarker row.scope.name :=
      isInlineMarker_encode row.name
    unfold inlineRanges at ih ⊢
    rw [List.map_cons, List.map_cons, List.filter_cons, List.filter_cons, hmarker]
    split
    next => rw [List.map_cons, List.map_cons, ih]; rfl
    next => exact ih

/-- The answers of the machine belong to those of the class set. -/
theorem introspector_simulates (h : vm.Serves set handle) {entry : String}
    (hentry : ∀ c ∈ entry.toList, ModifiedUtf8.Shared c) :
    Introspector.Simulates vm entry (fun owner number => owner = handle number)
      (SameMethod vm set) introspector set.introspector where
  methods := by
    rintro _ number rfl
    exact agrees_methods h number
  modifiers _ _ hmethod := agrees_modifiers h hmethod
  name _ _ hmethod := (agrees_name h hmethod).mono fun _ _ ⟨⟨text, hname, hname'⟩, hrelease⟩ =>
    ⟨by rw [hname, hname']; exact written_eq_entry_iff hentry text, hrelease⟩
  locals _ _ hmethod := (agrees_locals h hmethod).mono fun _ _ ⟨⟨rows, hrows, hrows'⟩, hrelease⟩ =>
    ⟨by rw [hrows, hrows']; exact inlineRanges_written rows, hrelease⟩
  lines _ _ hmethod := agrees_lines h hmethod
  sourceFile := by
    rintro _ number rfl
    refine (agrees_sourceFile h number).mono fun _ _ ⟨⟨text, hname, hname'⟩, hrelease⟩ =>
      ⟨?_, hrelease⟩
    rw [hname, hname', ModifiedUtf8.decode_encode, ModifiedUtf8.decode_utf8]
  report event := Keeps.report event
  silent _ := rfl

/-- **Machine and class set locate a class in the same way**, whatever the class, and whatever was
done with the machine before: they give the same location, or fail with the same error. -/
theorem resolve_eq (h : vm.Serves set handle) {entry : String}
    (hentry : ∀ c ∈ entry.toList, 0 < c.toNat ∧ c.toNat < 0x10000) (owner : Nat) {host : Host}
    (hvm : host.vm = vm) :
    ((introspector.resolve entry (handle owner)).run.run host).1 =
      (set.introspector.resolve entry owner).run.run := by
  have hagrees : Agrees vm Eq (introspector.resolve entry (handle owner))
      (set.introspector.resolve entry owner) := (introspector_simulates h hentry).resolve rfl
  exact (hagrees host hvm).2.eq

/-- A class with a bridge and a method that has inlined code, from a file with a supplementary
character in its name. -/
def sampleClass : ClassFile where
  minorVersion := 0
  majorVersion := 52
  accessFlags := 0
  thisClass := "A"
  methods := #[
    ⟨0x41, "f", "()V", some [⟨0, 9⟩], none⟩,
    ⟨1, "f", "()V", some [⟨0, 3⟩, ⟨4, 8⟩], some [⟨"$i$f$g", "I", 4, 2, 0⟩]⟩]
  sourceFile := some "😀.kt"

/-- A machine that serves the class. -/
def sampleMachine : Vm where
  classes := [{
    id := 7
    methods := { rows := [
      { id := 8, modifiers := 0x41, name := some [0x66], lines := some { rows := [⟨0, 9⟩] } },
      { id := 9, modifiers := 1, name := some [0x66]
        locals := some { rows := [
          { name := some [0x24, 0x69, 0x24, 0x66, 0x24, 0x67], start := 4, length := 2 }] }
        lines := some { rows := [⟨0, 3⟩, ⟨4, 8⟩] } }] }
    sourceFile := some (some [0xED, 0xA0, 0xBD, 0xED, 0xB8, 0x80, 0x2E, 0x6B, 0x74]) }]

theorem sampleMachine_serves :
    sampleMachine.Serves ⟨#[sampleClass]⟩ fun number => number + 7 where
  present _ := List.not_mem_nil
  succeeds _ := rfl
  distinct := by decide
  known := by
    intro number file hfile
    cases number with
    | succ number => cases hfile
    | zero =>
      cases hfile
      refine ⟨_, rfl, .cons ?_ (.cons ?_ .nil), rfl⟩
      · exact ⟨⟨rfl, rfl⟩, ⟨rfl, rfl⟩, .inr ⟨rfl, rfl⟩, rfl, _, rfl, rfl⟩
      · exact ⟨⟨rfl, rfl⟩, ⟨rfl, rfl⟩, ⟨rfl, _, rfl, rfl⟩, rfl, _, rfl, rfl⟩
  unknown := by
    intro number hnumber
    cases number with
    | zero => cases hnumber
    | succ number =>
      simp [Vm.class?, sampleMachine]

theorem resolve_eq_sample :
    ((introspector.resolve "f" 7).run.run { vm := sampleMachine }).1 =
      .ok ⟨"😀.kt", 3, 3⟩ :=
  (resolve_eq sampleMachine_serves (by simp) 0 rfl).trans (by decide +kernel)

end Tool
end ClosureSpan
