import ClosureSpan.ClassSet
import ClosureSpan.Proofs.Text.Canonical
import ClosureSpan.Proofs.Vm.Questions

/-!
# The name of the entry method

A machine tells the name of a method in modified UTF-8, and a scan compares it, byte for byte, with
the wanted name in standard UTF-8.  The two forms write the same bytes for a text without NUL and
without supplementary characters, and for no other.  So a method of such a name is not found in a
machine, although it is found in a class set, whose names are decoded.

## Main definitions

* `Makes vm call x` — a computation that makes a call on machines that answer like `vm`.
* `Vm.TellsName` — the machine tells that a method is no bridge, and tells its name.
* `Host.ReadsWanted` — the tables of a method were read if a scan came to it and it was wanted.

## Main results

* `ModifiedUtf8.encode_eq_utf8_iff` — when the two forms of two texts are the same bytes.
* `Tool.reads_tables_iff` — **which methods of a machine a scan reads the tables of.**
* `Tool.misses_supplementary_name` — a method that has the wanted name and is not found.
-/

namespace ClosureSpan

/-! ### Two forms of a text -/

namespace ModifiedUtf8

/-- Any other character takes more bytes in modified UTF-8 than in standard UTF-8. -/
theorem length_utf8EncodeChar_lt {c : Char} (h : ¬ Shared c) :
    (String.utf8EncodeChar c).length < (encodeChar c).length := by
  unfold Shared at h
  rcases Nat.lt_or_ge c.toNat 0x10000 with hunit | hsupplementary
  -- NUL takes two bytes and not one, a supplementary character two times three and not four
  · have hnul : c.toNat = 0 := by omega
    rw [utf8EncodeChar_of_ascii (by omega), encodeChar_of_unit (by omega) hunit, hnul]
    decide
  · have hbound := (Utf16.toNat_not_surrogate c).2
    have hlength : ∀ u, 0x800 ≤ u → (encodeUnit u).length = 3 := by
      intro u hu
      rw [encodeUnit, if_neg (by omega)]
      rfl
    rw [utf8EncodeChar_of_supplementary hsupplementary, encodeChar, if_neg (by omega),
      units_of_le hsupplementary, List.flatMap_cons, List.flatMap_singleton, List.length_append,
      hlength _ (by omega), hlength _ (by omega)]
    change 4 < 6
    omega

theorem length_utf8EncodeChar_le (c : Char) :
    (String.utf8EncodeChar c).length ≤ (encodeChar c).length := by
  by_cases h : Shared c
  · exact Nat.le_of_eq (by rw [encodeChar_eq_utf8EncodeChar h])
  · exact Nat.le_of_lt (length_utf8EncodeChar_lt h)

theorem length_utf8_le (cs : List Char) :
    (cs.flatMap String.utf8EncodeChar).length ≤ (cs.flatMap encodeChar).length := by
  induction cs with
  | nil => exact Nat.le_refl _
  | cons c cs ih =>
    have hc := length_utf8EncodeChar_le c
    rw [List.flatMap_cons, List.flatMap_cons, List.length_append, List.length_append]
    omega

/-- A text of the same length in both forms has only characters that both write alike. -/
theorem shared_of_length_eq {cs : List Char}
    (h : (cs.flatMap encodeChar).length = (cs.flatMap String.utf8EncodeChar).length) :
    ∀ c ∈ cs, Shared c := by
  induction cs with
  | nil => simp
  | cons c cs ih =>
    have hc := length_utf8EncodeChar_le c
    have hcs := length_utf8_le cs
    rw [List.flatMap_cons, List.flatMap_cons, List.length_append, List.length_append] at h
    refine List.forall_mem_cons.mpr ⟨?_, ih (by omega)⟩
    by_contra hshared
    have hlt := length_utf8EncodeChar_lt hshared
    omega

/-- **The two forms of two texts are the same bytes** if the texts are the same and have no NUL and
no supplementary character, and in no other case. -/
theorem encode_eq_utf8_iff {s t : String} :
    encode s = utf8 t ↔ s = t ∧ ∀ c ∈ t.toList, Shared c := by
  constructor
  · intro h
    have hsame : s = t := by rw [← decode_encode s, h, decode_utf8]
    subst hsame
    exact ⟨rfl, shared_of_length_eq (congrArg List.length h)⟩
  · rintro ⟨rfl, hshared⟩
    exact encode_eq_utf8 hshared

end ModifiedUtf8

/-! ### Calls that are made in any case -/

variable {α β : Type} {vm : Vm}

/-- On machines that answer like `vm` the computation makes the call. -/
def Makes (vm : Vm) (call : Call) (x : HostM α) : Prop :=
  ∀ host : Host, host.vm = vm → call ∈ (x.run host).2.calls

namespace Makes

variable {ε : Type} {call : Call}

theorem bind {x : HostM α} {f : α → HostM β} {P : α → Prop} (h : Makes vm call x)
    (hx : Moves Call.Any x P) (hf : ∀ a, P a → Acts Call.Any (f a)) : Makes vm call (x >>= f) := by
  intro host hvm
  rw [Host.run_bind]
  exact (hf _ (hx.gives host)).mem_calls givesBack_any (h host hvm)

theorem map {x : ExceptT ε HostM α} (h : Makes vm call x.run) (f : α → β) :
    Makes vm call (f <$> x).run := by
  intro host hvm
  rw [ExceptT.run_map, StateT.run_map]
  exact h host hvm

/-- The call is made to obtain a value, which is then used and given back. -/
theorem use {x : ExceptT ε HostM (Held HostM α)} {f : α → ExceptT ε HostM β}
    (h : Makes vm call x.run) (hx : Lets Call.Any x)
    (hf : ∀ a, Tries Call.Any (f a) fun _ => True) : Makes vm call (Held.use x f).run := by
  unfold Held.use
  rw [ExceptT.run_bind]
  refine h.bind hx fun outcome houtcome => ?_
  cases outcome with
  | ok held =>
    exact (hf held.value).acts.bind fun _ => (houtcome held rfl).bind fun _ => Acts.pure _
  | error fault => exact Acts.pure _

end Makes

namespace Tool

variable {handle : Handle}

/-- A function that is there is called, whatever comes of it. -/
theorem makes_call {function : ToolFunction} {entry : Call} {answer : Vm → ToolM α}
    (hpresent : function ∉ vm.missing) (hanswer : Acts Call.Any (answer vm).run) :
    Makes vm entry (call function entry answer).run := by
  rintro host rfl
  have hentered : entry ∈ (host.entered entry).calls := by
    rw [Host.calls_entered]
    exact List.mem_append_right _ List.mem_cons_self
  rw [run_call, if_neg hpresent]
  by_cases hsuccess : host.vm.statusOf function = Status.success
  · rw [if_pos hsuccess]
    exact hanswer.mem_calls givesBack_any hentered
  · rw [if_neg hsuccess]
    exact hentered

/-- A question about a method is asked, whatever comes of it. -/
theorem makes_askMethod {query : Query} {answer : VmMethod → ToolM α} {Value : α → Prop}
    (hpresent : ToolFunction.query query ∉ vm.missing)
    (h : ∀ method, Tries Call.Any (answer method) Value) :
    Makes vm (.query query handle) (askMethod query handle answer).run :=
  makes_call hpresent (Tries.acts (tries_answer h vm))

/-- The local variable table of a candidate is asked for. -/
theorem makes_measure (hpresent : ToolFunction.query .locals ∉ vm.missing) (entry : String) :
    Makes vm (.query .locals handle) (introspector.measure entry handle).run := by
  have htelling : introspector.Telling Call.Any handle := introspector_telling fun _ => trivial
  have hlocals : Makes vm (.query .locals handle) (locals handle).run :=
    makes_askMethod hpresent fun _ => tries_present_bind fun table =>
      VariableTable.lets_ofTable handle table
  have hscopes : Makes vm (.query .locals handle) (introspector.locals handle).run :=
    hlocals.map (Held.map (List.map VariableEntry.scope))
  refine hscopes.use htelling.locals fun scopes => ?_
  refine htelling.lines.use fun rows => ?_
  exact Tries.lift_bind (htelling.report _) fun _ _ => Tries.pure trivial

end Tool

/-! ### A scan of a machine -/

/-- The machine tells that a method is no bridge, and tells its name in modified UTF-8.  It can be
asked for the local variable table of the method. -/
structure Vm.TellsName (vm : Vm) (handle : Handle) (name : String) : Prop where
  /-- The questions can be asked. -/
  present : ∀ query ∈ [Query.modifiers, .name, .locals], ToolFunction.query query ∉ vm.missing
  /-- Modifiers and names are not refused as such. -/
  succeeds : ∀ query ∈ [Query.modifiers, .name], vm.statusOf (.query query) = Status.success
  /-- Modifiers and name of the method are told. -/
  told : ∃ method, vm.method? handle = some method ∧ isBridge method.modifiers = false ∧
    method.name = some (ModifiedUtf8.encode name) ∧
    method.statusOf .modifiers = Status.success ∧ method.statusOf .name = Status.success

/-- The call has nothing to do with the choice of a method: it asks neither for its modifiers nor
for its local variable table. -/
def Call.Elsewhere (handle : Handle) (call : Call) : Prop :=
  call ≠ .query .modifiers handle ∧ call ≠ .query .locals handle

theorem givesBack_elsewhere (handle : Handle) : GivesBack (Call.Elsewhere handle) :=
  ⟨fun _ _ => ⟨nofun, nofun⟩, fun _ _ => ⟨nofun, nofun⟩⟩

/-- The local variable table of a method was asked for if a scan came to the method, which is asked
for its modifiers then, and if the method was wanted. -/
def Host.ReadsWanted (handle : Handle) (wanted : Prop) (host : Host) : Prop :=
  .query .locals handle ∈ host.calls ↔ .query .modifiers handle ∈ host.calls ∧ wanted

theorem Moves.readsWanted {handle : Handle} {wanted : Prop} {x : HostM α} {P : α → Prop}
    (h : Moves (Call.Elsewhere handle) x P) {host : Host} (hread : host.ReadsWanted handle wanted) :
    (x.run host).2.ReadsWanted handle wanted := by
  have hfree := givesBack_elsewhere handle
  unfold Host.ReadsWanted
  rw [h.mem_calls_iff hfree fun hmay => hmay.1 rfl, h.mem_calls_iff hfree fun hmay => hmay.2 rfl]
  exact hread

namespace Tool

variable {handle : Handle} {name : String}

/-- A failure is read in other words, and all else stays. -/
theorem run_asked (query : Query) (answer : ToolM α) (host : Host) :
    (asked query answer).run.run host =
      ((answer.run.run host).1.mapError (QueryError.ofStatus query), (answer.run.run host).2) := rfl

theorem run_modifiers (h : vm.TellsName handle name) {host : Host} (hvm : host.vm = vm) :
    ∃ modifiers, isBridge modifiers = false ∧ (introspector.modifiers handle).run.run host =
      (.ok modifiers, host.entered (.query .modifiers handle)) := by
  obtain ⟨method, hmethod, hbridge, -, hstatus, -⟩ := h.told
  refine ⟨method.modifiers, hbridge, ?_⟩
  have hrun : (Tool.modifiers handle).run.run host =
      (.ok method.modifiers, host.entered (.query .modifiers handle)) := by
    unfold Tool.modifiers askMethod
    rw [run_call, hvm, if_neg (h.present _ (by simp)), if_pos (h.succeeds _ (by simp)), hmethod]
    dsimp only
    rw [if_pos hstatus]
    rfl
  change (asked .modifiers (Tool.modifiers handle)).run.run host = _
  rw [run_asked, hrun]
  rfl

/-- The bytes are compared as they are. -/
theorem run_hasName (h : vm.TellsName handle name) (entry : String) {host : Host}
    (hvm : host.vm = vm) : ((introspector.hasName entry handle).run.run host).1 =
      .ok (decide (ModifiedUtf8.encode name = utf8 entry)) := by
  obtain ⟨method, hmethod, -, hname, -, hstatus⟩ := h.told
  have hrun : ∃ release host', (Tool.name handle).run.run host =
      (.ok ⟨ModifiedUtf8.encode name, release⟩, host') := by
    unfold Tool.name askMethod
    rw [run_call, hvm, if_neg (h.present _ (by simp)), if_pos (h.succeeds _ (by simp)), hmethod]
    dsimp only
    rw [if_pos hstatus, hname]
    exact ⟨_, _, rfl⟩
  obtain ⟨release, mid, hrun⟩ := hrun
  have hasked : (introspector.name handle).run.run host =
      (.ok ⟨ModifiedUtf8.encode name, release⟩, mid) := by
    change (asked .name (Tool.name handle)).run.run host = _
    rw [run_asked, hrun]
    rfl
  unfold Introspector.hasName
  rw [Held.run_use, StateT.run_bind, hasked]
  rfl

/-- The tables of a method are read if its name is the wanted one, byte for byte. -/
theorem run_candidate (h : vm.TellsName handle name) (entry : String) {host : Host}
    (hvm : host.vm = vm) : (introspector.candidate entry handle).run.run host =
      StateT.run (if ModifiedUtf8.encode name = utf8 entry then
          (introspector.measure entry handle).run else pure (.ok none))
        ((introspector.hasName entry handle).run.run
          (host.entered (.query .modifiers handle))).2 := by
  obtain ⟨modifiers, hbridge, hmodifiers⟩ := run_modifiers h hvm
  have hentered : (host.entered (.query .modifiers handle)).vm = vm := hvm
  have hnamed := run_hasName h entry hentered
  unfold Introspector.candidate
  rw [ExceptT.run_bind, StateT.run_bind, hmodifiers]
  change StateT.run (ExceptT.run (if isBridge modifiers = true then pure none else
    introspector.hasName entry handle >>= fun named =>
      if named = true then introspector.measure entry handle else pure none)) _ = _
  rw [hbridge, if_neg Bool.false_ne_true, ExceptT.run_bind, StateT.run_bind]
  revert hnamed
  generalize (introspector.hasName entry handle).run.run _ = named
  obtain ⟨outcome, mid⟩ := named
  rintro rfl
  dsimp only
  by_cases hsame : ModifiedUtf8.encode name = utf8 entry
  · rw [if_pos hsame, decide_eq_true hsame]
    rfl
  · rw [if_neg hsame, decide_eq_false hsame]
    rfl

/-- When a scan comes to the method, it reads its tables if it is wanted. -/
theorem readsWanted_candidate_self (h : vm.TellsName handle name) (entry : String) {host : Host}
    (hvm : host.vm = vm)
    (hread : host.ReadsWanted handle (ModifiedUtf8.encode name = utf8 entry)) :
    ((introspector.candidate entry handle).run.run host).2.ReadsWanted handle
      (ModifiedUtf8.encode name = utf8 entry) := by
  have hlets : Lets (Call.Elsewhere handle) (introspector.name handle) :=
    (lets_name ⟨nofun, nofun⟩).adapt _
  have hname : Tries (Call.Elsewhere handle) (introspector.hasName entry handle) fun _ => True :=
    hlets.use fun _ => Tries.pure trivial
  have hfree := givesBack_elsewhere handle
  have hcalls := Host.calls_entered host (.query .modifiers handle)
  rw [run_candidate h entry hvm]
  generalize hmid : ((introspector.hasName entry handle).run.run
    (host.entered (.query .modifiers handle))).2 = mid
  have hmidvm : mid.vm = vm := by
    rw [← hmid, (Moves.moved hname hfree _).vm]
    exact hvm
  by_cases hsame : ModifiedUtf8.encode name = utf8 entry
  · rw [if_pos hsame]
    have htelling : introspector.Telling Call.Any handle := introspector_telling fun _ => trivial
    have hvisited : .query .modifiers handle ∈ mid.calls := by
      rw [← hmid, Moves.mem_calls_iff hname hfree fun hmay => hmay.1 rfl, hcalls]
      exact List.mem_append_right _ List.mem_cons_self
    exact iff_of_true (makes_measure (h.present _ (by simp)) entry mid hmidvm)
      ⟨(htelling.measure entry).acts.mem_calls givesBack_any hvisited, hsame⟩
  -- an unwanted method was not read before, and asking for its name reads no table
  · rw [if_neg hsame]
    have hunread : .query .locals handle ∉ mid.calls := by
      rw [← hmid, Moves.mem_calls_iff hname hfree fun hmay => hmay.2 rfl, hcalls, List.mem_append]
      rintro (hbefore | hsince)
      · exact hsame (hread.mp hbefore).2
      · cases List.mem_singleton.mp hsince
    exact iff_of_false hunread fun hwanted => hsame hwanted.2

/-- Another method is looked at without a look at this one. -/
theorem readsWanted_candidate_other {method : Handle} (hne : method ≠ handle) (entry : String)
    {wanted : Prop} {host : Host} (hread : host.ReadsWanted handle wanted) :
    ((introspector.candidate entry method).run.run host).2.ReadsWanted handle wanted := by
  have hmay : ∀ query, Call.Elsewhere handle (.query query method) := fun query =>
    ⟨fun hsame => hne (Call.query.inj hsame).2, fun hsame => hne (Call.query.inj hsame).2⟩
  exact Moves.readsWanted ((introspector_telling hmay).candidate entry) hread

/-- A scan goes from method to method. -/
theorem readsWanted_scan (h : vm.TellsName handle name) (entry : String) (methods : List Handle)
    {host : Host} (hvm : host.vm = vm)
    (hread : host.ReadsWanted handle (ModifiedUtf8.encode name = utf8 entry)) :
    ((introspector.scan entry methods).run.run host).2.ReadsWanted handle
      (ModifiedUtf8.encode name = utf8 entry) := by
  induction methods generalizing host with
  | nil => exact hread
  | cons method rest ih =>
    have htelling : introspector.Telling Call.Any method := introspector_telling fun _ => trivial
    have hmidvm := (Moves.moved (htelling.candidate entry) givesBack_any host).vm.trans hvm
    have hmid : ((introspector.candidate entry method).run.run host).2.ReadsWanted handle
        (ModifiedUtf8.encode name = utf8 entry) := by
      by_cases hself : method = handle
      · subst hself
        exact readsWanted_candidate_self h entry hvm hread
      · exact readsWanted_candidate_other hself entry hread
    rw [Introspector.scan_cons, ExceptT.run_bind, StateT.run_bind]
    generalize (introspector.candidate entry method).run.run host = mid at hmid hmidvm
    obtain ⟨outcome, mid⟩ := mid
    -- the scan goes on only after a candidate without a selection
    match outcome with
    | .ok none => exact ih hmidvm hmid
    | .ok (some selection) => exact hmid
    | .error fault => exact hmid

end Tool

/-- A class set compares the names as texts. -/
theorem ClassSet.run_hasName {set : ClassSet} {method : ClassSet.MethodRef} {info : MethodInfo}
    (h : set.methodFor .name method = .ok info) (entry : String) :
    (set.introspector.hasName entry method).run.run = .ok (decide (info.name = entry)) := by
  have hname : (set.introspector.name method).run = .ok (Held.owned (utf8 info.name)) := by
    change (set.name method).map _ = _
    rw [ClassSet.name, h]
    rfl
  have hsame : utf8 info.name = utf8 entry ↔ info.name = entry := by
    constructor
    · intro hsame
      rw [← ModifiedUtf8.decode_utf8 info.name, hsame, ModifiedUtf8.decode_utf8]
    · exact congrArg utf8
  unfold Introspector.hasName
  rw [Held.run_use, hname]
  exact congrArg Except.ok (decide_eq_decide.mpr hsame)

namespace Tool

variable {handle : Handle} {name : String}

/-- **A scan of a machine reads the tables of a method of the wanted name** when it comes to it, if
the name has no NUL and no supplementary character, and of no method of another name.  A class set
takes a method of the same name for a candidate whatever the characters are. -/
theorem reads_tables_iff {host : Host} (h : host.vm.TellsName handle name)
    (hnew : ∀ query, .query query handle ∉ host.calls) (entry : String) (owner : Handle) :
    (.query .locals handle ∈ ((introspector.select entry owner).run.run host).2.calls ↔
      .query .modifiers handle ∈ ((introspector.select entry owner).run.run host).2.calls ∧
        name = entry ∧ ∀ c ∈ entry.toList, ModifiedUtf8.Shared c) ∧
    ∀ (set : ClassSet) (method : ClassSet.MethodRef) (info : MethodInfo),
      set.methodFor .name method = .ok info → info.name = name →
        (set.introspector.hasName entry method).run.run = .ok (decide (name = entry)) := by
  refine ⟨?_, fun set method info hinfo hname => hname ▸ ClassSet.run_hasName hinfo entry⟩
  rw [← ModifiedUtf8.encode_eq_utf8_iff]
  change Host.ReadsWanted handle _ _
  have hfirst : host.ReadsWanted handle (ModifiedUtf8.encode name = utf8 entry) :=
    iff_of_false (hnew _) fun hwanted => hnew _ hwanted.1
  have hmethods : Lets (Call.Elsewhere handle) (introspector.methods owner) :=
    (lets_methods ⟨nofun, nofun⟩).adapt _
  have hmid := Moves.readsWanted hmethods hfirst
  have hmidvm := (Moves.moved hmethods (givesBack_elsewhere handle) host).vm
  have hgives := Moves.gives hmethods host
  unfold Introspector.select
  rw [Held.run_use, StateT.run_bind]
  generalize (introspector.methods owner).run.run host = mid at hmid hmidvm hgives
  obtain ⟨outcome, mid⟩ := mid
  cases outcome with
  | error fault => exact hmid
  | ok held =>
    -- the list of the methods is given back at the end
    have hscan := readsWanted_scan h entry held.value hmidvm hmid
    exact Moves.readsWanted (hgives held rfl) hscan

/-- A machine with a class of one method. -/
def withMethod (name : String) : Vm where
  classes := [{
    id := 7
    methods := { rows := [
      { id := 9, modifiers := 1, name := some (ModifiedUtf8.encode name)
        locals := some { rows := [] }, lines := some { rows := [⟨0, 3⟩] } }] } }]

theorem withMethod_tellsName (name : String) : (withMethod name).TellsName 9 name :=
  ⟨by simp [withMethod], fun _ _ => rfl, _, rfl, rfl, rfl, rfl, rfl⟩

/-- A scan for `f` reads the tables of `f`. -/
theorem reads_tables_of_ascii : (withMethod "f").TellsName 9 "f" ∧
    (∀ query, .query query 9 ∉ ({ vm := withMethod "f" } : Host).calls) ∧
    .query .locals 9 ∈ ((introspector.select "f" 7).run.run { vm := withMethod "f" }).2.calls := by
  have hnew : ∀ query, .query query 9 ∉ ({ vm := withMethod "f" } : Host).calls :=
    fun _ => List.not_mem_nil
  refine ⟨withMethod_tellsName "f", hnew, ?_⟩
  have hshared : ∀ c ∈ "f".toList, ModifiedUtf8.Shared c := by simp [ModifiedUtf8.Shared]
  refine (reads_tables_iff (withMethod_tellsName "f") hnew "f" 7).1.mpr ⟨?_, rfl, hshared⟩
  decide +kernel

/-- A scan for a method that is named `😀` does not read its tables. -/
theorem misses_supplementary_name : (withMethod "😀").TellsName 9 "😀" ∧
    .query .modifiers 9 ∈
      ((introspector.select "😀" 7).run.run { vm := withMethod "😀" }).2.calls ∧
    .query .locals 9 ∉
      ((introspector.select "😀" 7).run.run { vm := withMethod "😀" }).2.calls :=
  ⟨withMethod_tellsName "😀", by decide +kernel, by decide +kernel⟩

end Tool

end ClosureSpan
