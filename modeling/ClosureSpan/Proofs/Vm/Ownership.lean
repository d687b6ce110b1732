import ClosureSpan.Vm.ToolInterface

/-!
# Who owns the memory of a machine

What a computation does to the memory that is out is said by a triple: it takes over some pieces,
and when it ends it leaves some pieces, and all other memory is as it was.  Since nothing is said of
the other memory, triples compose: a computation that owns more than another one needs may run it,
and still owns the rest afterwards.  The order of the pieces plays no part.

The triples speak of machines whose books are in order: no two pieces that are out are the same,
every piece that was ever handed out is either out or was given back, and nothing was given back
that was not out.

## Main definitions

* `Vm.TakesBack` — a machine that memory can be given back to.
* `Host.Orderly` — the books of the machine are in order.
* `Turns taken x Left` — the triple.
* `Quiet`, `Tidy`, `Lends` — computations that leave nothing, or only what their result owns.

## Main results

* `turns_allocate`, `turns_deallocate` — the two moves of memory.
* `Lends.use` — **a use leaves nothing, whether it succeeds or fails.**
-/

namespace ClosureSpan

/-! ### Machines that take memory back -/

/-- A table that is reported with its true number of rows, unless it is null and has none. -/
def Table.Honest {ρ : Type} (table : Table ρ) : Prop :=
  table.null = true ∨ table.count.getD table.rows.length = table.rows.length

/-- The machine has a function that takes memory back, the function succeeds, and the variable
tables tell how much memory hangs on them. -/
structure Vm.TakesBack (vm : Vm) : Prop where
  present : ToolFunction.deallocate ∉ vm.missing
  succeeds : vm.statusOf .deallocate = Status.success
  honest : ∀ entry ∈ vm.classes, ∀ method ∈ entry.methods.rows, ∀ table,
    method.locals = some table → table.Honest

/-! ### Books in order -/

/-- The memory that a call gives back, if it gives some back. -/
def Call.released? : Call → Option Label
  | .deallocate label => label
  | _ => none

/-- What memory was ever given back, the newest first. -/
def Host.released (host : Host) : List Label :=
  host.journal.filterMap fun entry => entry.call.released?

/-- If the call gives memory back, then memory that was out when the call was made. -/
def Entry.Sound (entry : Entry) : Prop :=
  ∀ label, entry.call = .deallocate label →
    ∃ allocation ∈ entry.outstanding, label = some allocation.label

/-- The books of the machine are in order. -/
structure Host.Orderly (host : Host) : Prop where
  /-- Memory can be given back. -/
  takesBack : host.vm.TakesBack
  /-- The next piece of memory will be none of those that are out. -/
  fresh : ∀ allocation ∈ host.outstanding, allocation.serial < host.issued.count allocation.label
  /-- No two pieces that are out are the same. -/
  nodup : host.outstanding.Nodup
  /-- What was handed out is out or was given back. -/
  accounted : host.issued.Perm (host.outstanding.map Allocation.label ++ host.released)
  /-- Only what was out was given back. -/
  sound : ∀ entry ∈ host.journal, entry.Sound

/-- A machine on which nothing has been done has its books in order. -/
theorem Host.orderly_start {vm : Vm} (h : vm.TakesBack) (pending : Bool)
    (verbosity : Option Level) : Host.Orderly { vm, pending, verbosity } where
  takesBack := h
  fresh := by simp
  nodup := List.nodup_nil
  accounted := List.Perm.refl _
  sound := by simp

/-- The books do not depend on the rest of the state. -/
theorem Host.Orderly.congr {host host' : Host} (h : host.Orderly) (hvm : host'.vm.TakesBack)
    (hout : host'.outstanding = host.outstanding) (hissued : host'.issued = host.issued)
    (hjournal : host'.journal = host.journal) : host'.Orderly := by
  obtain ⟨-, hfresh, hnodup, haccounted, hsound⟩ := h
  refine ⟨hvm, ?_, ?_, ?_, ?_⟩
  · rwa [hout, hissued]
  · rwa [hout]
  · rwa [hissued, hout, Host.released, hjournal]
  · rwa [hjournal]

/-! ### The triple -/

variable {ε α β : Type}

/-- A computation that takes over the memory `taken` leaves memory that `Left` admits for its
result, and all other memory as it was. -/
def Turns (taken : List Allocation) (x : HostM α) (Left : α → List Allocation → Prop) : Prop :=
  ∀ host others, host.Orderly → host.outstanding.Perm (taken ++ others) →
    ∃ left, Left (x.run host).1 left ∧ (x.run host).2.Orderly ∧
      (x.run host).2.outstanding.Perm (left ++ others)

namespace Turns

variable {taken : List Allocation} {x : HostM α} {Left Left' : α → List Allocation → Prop}

theorem pure {a : α} (h : Left a taken) : Turns taken (pure a) Left :=
  fun _ _ horderly hout => ⟨taken, h, horderly, hout⟩

theorem mono (h : Turns taken x Left) (hmono : ∀ a left, Left a left → Left' a left) :
    Turns taken x Left' := by
  intro host others horderly hout
  obtain ⟨left, hleft, hrest⟩ := h host others horderly hout
  exact ⟨left, hmono _ _ hleft, hrest⟩

theorem bind {f : α → HostM β} {After : β → List Allocation → Prop} (h : Turns taken x Left)
    (hf : ∀ a left, Left a left → Turns left (f a) After) : Turns taken (x >>= f) After := by
  intro host others horderly hout
  obtain ⟨left, hleft, horderly', hout'⟩ := h host others horderly hout
  exact hf _ left hleft _ others horderly' hout'

theorem map {f : α → β} {After : β → List Allocation → Prop} (h : Turns taken x Left)
    (hf : ∀ a left, Left a left → After (f a) left) : Turns taken (f <$> x) After := by
  intro host others horderly hout
  obtain ⟨left, hleft, hrest⟩ := h host others horderly hout
  exact ⟨left, hf _ left hleft, hrest⟩

/-- Whoever owns more keeps it. -/
theorem frame (h : Turns taken x Left) (more : List Allocation) :
    Turns (taken ++ more) x fun a all => ∃ left, Left a left ∧ all = left ++ more := by
  intro host others horderly hout
  -- what is kept counts among the other memory
  rw [List.append_assoc] at hout
  obtain ⟨left, hleft, horderly', hout'⟩ := h host (more ++ others) horderly hout
  exact ⟨left ++ more, ⟨left, hleft, rfl⟩, horderly', by rwa [List.append_assoc]⟩

end Turns

/-! ### The primitives -/

theorem turns_get : Turns [] (get : HostM Host) fun host left => host.Orderly ∧ left = [] :=
  fun _ _ horderly hout => ⟨[], ⟨horderly, rfl⟩, horderly, hout⟩

/-- A change of anything but the books. -/
theorem turns_modify {change : Host → Host}
    (hvm : ∀ host, host.vm.TakesBack → (change host).vm.TakesBack)
    (hout : ∀ host, (change host).outstanding = host.outstanding)
    (hissued : ∀ host, (change host).issued = host.issued)
    (hjournal : ∀ host, (change host).journal = host.journal) :
    Turns [] (modify change : HostM Unit) fun _ left => left = [] := by
  intro host others horderly hperm
  refine ⟨[], rfl, horderly.congr (hvm host horderly.takesBack) (hout host) (hissued host)
    (hjournal host), ?_⟩
  change (change host).outstanding.Perm _
  rwa [hout host]

theorem turns_record {call : Call} (h : ∀ label, call ≠ .deallocate label) :
    Turns [] (Host.record call) fun _ left => left = [] := by
  intro host others horderly hout
  refine ⟨[], rfl, ⟨horderly.takesBack, horderly.fresh, horderly.nodup, ?_, ?_⟩, hout⟩
  · have hreleased : call.released? = none := by
      cases call with
      | deallocate label => exact absurd rfl (h label)
      | _ => rfl
    rw [Host.run_record]
    simpa [Host.released, hreleased] using horderly.accounted
  · rw [Host.run_record]
    intro entry hentry
    rcases List.mem_cons.mp hentry with rfl | hentry
    · exact fun label heq => absurd heq (h label)
    · exact horderly.sound entry hentry

theorem turns_setPending (pending : Bool) :
    Turns [] (Host.setPending pending) fun _ left => left = [] :=
  turns_modify (fun _ h => h) (fun _ => rfl) (fun _ => rfl) fun _ => rfl

theorem turns_report (event : Event) : Turns [] (Host.report event) fun _ left => left = [] := by
  intro host others horderly hout
  rw [Host.run_report]
  exact ⟨[], rfl, horderly.congr horderly.takesBack rfl rfl rfl, hout⟩

/-- A new piece of memory is none of those that are out. -/
theorem turns_allocate (label : Label) :
    Turns [] (Host.allocate label) fun allocation left => left = [allocation] := by
  intro host others horderly hout
  -- memory that is out for the same label has a smaller serial number
  have hnew : ∀ allocation ∈ host.outstanding,
      allocation ≠ ⟨label, host.issued.count label⟩ := by
    rintro _ hmem rfl
    exact Nat.lt_irrefl _ (horderly.fresh _ hmem)
  refine ⟨_, rfl, ⟨horderly.takesBack, ?_, ?_, ?_, horderly.sound⟩, ?_⟩ <;>
    rw [Host.run_allocate]
  · intro allocation hmem
    rcases List.mem_cons.mp hmem with rfl | hmem
    · simp
    · have := horderly.fresh allocation hmem
      rw [List.count_cons]
      omega
  · exact List.nodup_cons.mpr ⟨fun hmem => hnew _ hmem rfl, horderly.nodup⟩
  · exact horderly.accounted.cons label
  · exact hout.cons _

theorem Host.run_deallocate {host : Host} (h : host.vm.TakesBack) (allocation : Allocation) :
    (Host.deallocate allocation).run host =
      ((), { host with
        journal := ⟨.deallocate
          (if allocation ∈ host.outstanding then some allocation.label else none),
          host.outstanding, host.pending⟩ :: host.journal
        outstanding := host.outstanding.erase allocation }) := by
  change ((if ToolFunction.deallocate ∈ host.vm.missing then pure () else
    Host.record _ >>= fun _ => if host.vm.statusOf .deallocate = Status.success then
      modify _ else pure ()) : HostM Unit).run host = _
  rw [if_neg h.present, if_pos h.succeeds]
  rfl

theorem turns_deallocate (allocation : Allocation) :
    Turns [allocation] (Host.deallocate allocation) fun _ left => left = [] := by
  intro host others horderly hout
  have hmem : allocation ∈ host.outstanding := hout.mem_iff.mpr List.mem_cons_self
  have hrest : (host.outstanding.erase allocation).Perm others := by
    simpa using hout.erase allocation
  rw [Host.run_deallocate horderly.takesBack, if_pos hmem]
  refine ⟨[], rfl, ⟨horderly.takesBack, ?_, ?_, ?_, ?_⟩, hrest⟩
  · exact fun other hother => horderly.fresh other (List.mem_of_mem_erase hother)
  · exact horderly.nodup.erase allocation
  · -- the label moves from the memory that is out to the memory that was given back
    have hsplit : (host.outstanding.map Allocation.label).Perm
        (allocation.label :: (host.outstanding.erase allocation).map Allocation.label) :=
      (List.perm_cons_erase hmem).map Allocation.label
    exact horderly.accounted.trans ((hsplit.append_right _).trans List.perm_middle.symm)
  · intro entry hentry
    rcases List.mem_cons.mp hentry with rfl | hentry
    · rintro label heq
      cases heq
      exact ⟨allocation, hmem, rfl⟩
    · exact horderly.sound entry hentry

/-! ### Computations that leave nothing -/

/-- A computation that takes over no memory and leaves none. -/
def Quiet (x : HostM α) : Prop := Turns [] x fun _ left => left = []

namespace Quiet

theorem pure (a : α) : Quiet (pure a) := Turns.pure rfl

theorem bind {x : HostM α} {f : α → HostM β} (h : Quiet x) (hf : ∀ a, Quiet (f a)) :
    Quiet (x >>= f) := by
  refine Turns.bind h fun a left hleft => ?_
  cases hleft
  exact hf a

theorem map {x : HostM α} (h : Quiet x) (f : α → β) : Quiet (f <$> x) :=
  Turns.map h fun _ _ hleft => hleft

/-- What is read off the state of the machine may be used. -/
theorem get_bind {f : Host → HostM α} (hf : ∀ host, host.Orderly → Quiet (f host)) :
    Quiet (get >>= f) := by
  refine turns_get.bind fun host left hleft => ?_
  obtain ⟨horderly, rfl⟩ := hleft
  exact hf host horderly

/-- Whoever owns memory may run the computation and still owns it afterwards. -/
theorem turns {x : HostM α} (h : Quiet x) (mem : List Allocation) :
    Turns mem x fun _ left => left = mem :=
  (Turns.frame h mem).mono fun _ _ ⟨_, hleft, hall⟩ => by rw [hall, hleft, List.nil_append]

end Quiet

/-! ### Computations that may fail -/

/-- A computation that takes over no memory.  If it succeeds, it leaves memory that `Left` admits
for its result, and if it fails, none. -/
def Tidy (x : ExceptT ε HostM α) (Left : α → List Allocation → Prop) : Prop :=
  Turns [] x.run fun outcome left => match outcome with
    | .ok a => Left a left
    | .error _ => left = []

/-- A computation that may fail and leaves nothing in either case. -/
def Clean (x : ExceptT ε HostM α) : Prop := Tidy x fun _ left => left = []

/-- Success and failure need not be told apart. -/
theorem clean_iff_quiet {x : ExceptT ε HostM α} : Clean x ↔ Quiet x.run := by
  have hsame : ∀ (outcome : Except ε α) (left : List Allocation),
      (match outcome with
        | .ok _ => left = []
        | .error _ => left = []) ↔ left = [] := by
    intro outcome left
    cases outcome <;> rfl
  unfold Clean Tidy Quiet
  exact ⟨fun h => h.mono fun outcome left => (hsame outcome left).mp,
    fun h => h.mono fun outcome left => (hsame outcome left).mpr⟩

namespace Tidy

variable {Left : α → List Allocation → Prop}

theorem pure {a : α} (h : Left a []) : Tidy (pure a : ExceptT ε HostM α) Left := Turns.pure h

theorem throw (e : ε) : Tidy (throw e : ExceptT ε HostM α) Left := Turns.pure rfl

/-- What follows goes on with the memory of a success, and with none after a failure. -/
theorem run_bind {x : ExceptT ε HostM α} {next : Except ε α → HostM β}
    {After : β → List Allocation → Prop} (h : Tidy x Left)
    (hok : ∀ a left, Left a left → Turns left (next (.ok a)) After)
    (herror : ∀ e, Turns [] (next (.error e)) After) : Turns [] (x.run >>= next) After := by
  refine Turns.bind h fun outcome left hleft => ?_
  cases outcome with
  | ok a => exact hok a left hleft
  | error e =>
    obtain rfl : left = [] := hleft
    exact herror e

/-- Only a computation that leaves nothing may be followed by one that can fail. -/
theorem bind {x : ExceptT ε HostM α} {f : α → ExceptT ε HostM β}
    {After : β → List Allocation → Prop} (h : Clean x) (hf : ∀ a, Tidy (f a) After) :
    Tidy (x >>= f) After := by
  unfold Tidy
  rw [ExceptT.run_bind]
  refine run_bind h (fun a left hleft => ?_) fun e => Turns.pure rfl
  obtain rfl : left = [] := hleft
  exact hf a

theorem bind_pure {x : ExceptT ε HostM α} {After : β → List Allocation → Prop} {f : α → β}
    (h : Tidy x Left) (hf : ∀ a left, Left a left → After (f a) left) :
    Tidy (x >>= fun a => Pure.pure (f a)) After := by
  unfold Tidy
  rw [ExceptT.run_bind]
  exact run_bind h (fun a left hleft => Turns.pure (hf a left hleft)) fun e => Turns.pure rfl

theorem map {x : ExceptT ε HostM α} {After : β → List Allocation → Prop} {f : α → β}
    (h : Tidy x Left) (hf : ∀ a left, Left a left → After (f a) left) : Tidy (f <$> x) After := by
  rw [← bind_pure_comp]
  exact h.bind_pure hf

theorem lift {x : HostM α} (h : Turns [] x Left) : Tidy (liftM x : ExceptT ε HostM α) Left :=
  Turns.bind h fun _ _ hleft => Turns.pure hleft

/-- Reading a failure in other words changes nothing else. -/
theorem adapt {ε' : Type} {x : ExceptT ε HostM α} (h : Tidy x Left) (f : ε → ε') :
    Tidy (x.adapt f) Left := by
  refine Turns.map h fun outcome left hleft => ?_
  cases outcome <;> exact hleft

end Tidy

namespace Clean

theorem ofQuiet {x : HostM α} (h : Quiet x) : Clean (liftM x : ExceptT ε HostM α) := Tidy.lift h

theorem bind {x : ExceptT ε HostM α} {f : α → ExceptT ε HostM β} (h : Clean x)
    (hf : ∀ a, Clean (f a)) : Clean (x >>= f) := Tidy.bind h hf

end Clean

/-! ### Lent values -/

/-- Giving the value back gives back this memory. -/
def Held.Owns (held : Held HostM α) (mem : List Allocation) : Prop :=
  Turns mem held.release fun _ left => left = []

/-- A computation that leaves only the memory that its result owns. -/
def Lends (acquire : ExceptT ε HostM (Held HostM α)) : Prop :=
  Tidy acquire fun held left => held.Owns left

theorem Held.owns_owned (value : α) : (Held.owned value : Held HostM α).Owns [] := Turns.pure rfl

theorem Held.Owns.map {held : Held HostM α} {mem : List Allocation} (h : held.Owns mem)
    (f : α → β) : (held.map f).Owns mem := h

/-- **A use leaves nothing, whether it succeeds or fails.** -/
theorem Lends.use {acquire : ExceptT ε HostM (Held HostM α)} {body : α → ExceptT ε HostM β}
    (h : Lends acquire) (hbody : ∀ value, Clean (body value)) : Clean (Held.use acquire body) := by
  unfold Clean Tidy
  rw [Held.run_use]
  refine Tidy.run_bind h (fun held mem hmem => ?_) fun e => Turns.pure rfl
  -- the body runs while the memory of the value is out
  have hquiet : Quiet (body held.value).run := clean_iff_quiet.mp (hbody held.value)
  refine (hquiet.turns mem).bind fun outcome left hleft => ?_
  obtain rfl : left = mem := hleft
  refine Turns.bind hmem fun _ left hleft => ?_
  obtain rfl : left = [] := hleft
  exact Turns.pure (by cases outcome <;> rfl)

end ClosureSpan
