import ClosureSpan.Options
import ClosureSpan.Proofs.Scan.EntryName
import ClosureSpan.Proofs.Session.Turns
import ClosureSpan.Proofs.Session.Visits

/-!
# The name of the result class

A machine reads names and texts in modified UTF-8.  A string is made of a text in this form,
whatever characters it has.  A class is looked up by the standard UTF-8 of its name.

The two forms agree unless there is a NUL or a supplementary character in the name.  With a
supplementary character another name is looked up, and with a NUL none, since a zero byte ends what
is passed.

## Main definitions

* `Call.lookedUp` — the names of the classes that are looked up.

## Main results

* `zero_notMem_utf8_iff` — when the standard form has no zero byte.
* `Binder.runs_bind_names` — the names that a binder passes.
* `Binder.looks_up_standard_form` — **what class is looked up, and what string is made.**
* `Binder.misses_supplementary_class` — a class that is looked up by another name.
-/

namespace ClosureSpan

variable {vm : Vm}

/-! ### Zero bytes -/

namespace ModifiedUtf8

/-- NUL is the only character with a zero byte in its standard form. -/
theorem zero_notMem_utf8EncodeChar_iff {c : Char} :
    0 ∉ String.utf8EncodeChar c ↔ 0 < c.toNat := by
  rcases Nat.lt_or_ge c.toNat 0x10000 with hunit | hsupplementary
  · rcases Nat.eq_zero_or_pos c.toNat with hnul | hpos
    · rw [utf8EncodeChar_of_ascii (by omega), hnul]
      decide
    · rw [← encodeChar_eq_utf8EncodeChar ⟨hpos, hunit⟩]
      exact iff_of_true (canonicalForm_encodeChar c).zero_notMem hpos
  · have hbound := (Utf16.toNat_not_surrogate c).2
    have hbyte : ∀ n, 0 < n → n < 0x100 → (0 : UInt8) ≠ UInt8.ofNat n := by
      intro n hpos hlt hzero
      have hnat : (0 : UInt8).toNat = n := (congrArg UInt8.toNat hzero).trans (toNat_byte hlt)
      exact absurd hnat (Nat.ne_of_lt hpos)
    refine iff_of_true ?_ (by omega)
    rw [utf8EncodeChar_of_supplementary hsupplementary]
    simp only [List.mem_cons, List.not_mem_nil, or_false, not_or]
    exact ⟨hbyte _ (by omega) (by omega), hbyte _ (by omega) (by omega),
      hbyte _ (by omega) (by omega), hbyte _ (by omega) (by omega)⟩

end ModifiedUtf8

/-- The standard form of a text has no zero byte if the text has no NUL. -/
theorem zero_notMem_utf8_iff {text : String} :
    0 ∉ utf8 text ↔ ∀ c ∈ text.toList, 0 < c.toNat := by
  simp only [utf8, List.mem_flatMap, not_exists, not_and,
    ModifiedUtf8.zero_notMem_utf8EncodeChar_iff]

/-! ### Names that are passed -/

/-- The name of the class that is looked up. -/
def Call.className? : Call → Option Bytes
  | .findClass name => some name
  | _ => none

/-- The names of the classes that are looked up, in order. -/
def Call.lookedUp (calls : List Call) : List Bytes := calls.filterMap Call.className?

/-- Classes are looked up in one stage. -/
theorem Call.lookedUp_select (calls : List Call) :
    lookedUp (Stage.binding.select calls) = lookedUp calls := by
  unfold lookedUp Stage.select
  rw [List.filterMap_filter]
  congr 1
  funext call
  cases call <;> rfl

/-- All calls of a run, and those of a stage. -/
theorem Ran.lookedUp {α : Type} {x : HostM α} {host host' : Host} {a : α} {made calls : List Call}
    (h : Ran .binding x host a made host') (hcalls : host'.calls = host.calls ++ calls) :
    Call.lookedUp calls = Call.lookedUp made := by
  have hhere := h.here
  rw [Host.callsIn, Host.callsIn, hcalls, Stage.select_append] at hhere
  rw [← Call.lookedUp_select, List.append_cancel_left hhere]

/-- A look-up passes the standard form of the name, if it has no zero byte, and no other name. -/
theorem Binding.lookedUp_of_prefix {className : String} {found : Handle} {made : List Call}
    (hmade : made <+: protocol className found) (hbegun : made = [] ↔ 0 ∈ utf8 className) :
    Call.lookedUp made = if 0 ∈ utf8 className then [] else [utf8 className] := by
  cases made with
  | nil => exact (if_pos (hbegun.mp rfl)).symm
  | cons call more =>
    obtain ⟨rfl, hmore⟩ := List.cons_prefix_cons.mp hmade
    rw [if_neg fun hname => List.cons_ne_nil _ _ (hbegun.mpr hname)]
    -- no name of a class is passed with the calls behind
    have hnone : Call.lookedUp more = [] := by
      refine List.filterMap_eq_nil_iff.mpr fun call hcall => ?_
      have hmem := hmore.subset hcall
      simp only [List.mem_cons, List.not_mem_nil, or_false] at hmem
      rcases hmem with rfl | rfl <;> rfl
    exact congrArg (utf8 className :: ·) hnone

namespace Native

theorem calls_answered (handle : Handle) (host : Host) :
    ((answered handle).run host).2.calls = host.calls := by
  change (StateT.run (if handle = 0 ∧ host.vm.throws = true then
    Host.setPending true >>= fun _ => pure handle.nonNull? else pure handle.nonNull?) host).2.calls
      = _
  split
  next => rfl
  next => rfl

/-- A string is made of the modified UTF-8 of its text, whatever the text is. -/
theorem calls_newString (text : String) (host : Host) :
    ((newString text).run host).2.calls =
      host.calls ++ [.newString (ModifiedUtf8.encode text)] := by
  unfold newString
  rw [terminated?_of_notMem (ModifiedUtf8.zero_notMem_encode text),
    ← host.calls_entered (.newString (ModifiedUtf8.encode text))]
  exact calls_answered _ _

end Native

namespace Binder

/-- A binder passes its name once, unless the name cannot be passed. -/
theorem runs_bind_names (binder : Binder) :
    Runs .binding vm binder.bind fun _ made => Call.lookedUp made =
      if binder.binding = .fresh ∧ 0 ∉ utf8 binder.className then [utf8 binder.className]
      else [] := by
  obtain ⟨className, binding⟩ := binder
  cases binding with
  | fresh =>
    have hlookUp := (Binding.runs_lookUp vm className).mono fun _ _ h =>
      Binding.lookedUp_of_prefix h.1.2 h.2
    refine (Latch.runs_settle .fresh hlookUp).bind fun _ made hmade => Runs.pure ?_
    rw [List.append_nil, hmade rfl]
    by_cases hname : 0 ∈ utf8 className
    · rw [if_pos hname, if_neg fun h => h.2 hname]
    · rw [if_neg hname, if_pos ⟨rfl, hname⟩]
  | unavailable => exact Runs.pure rfl
  | ready binding => exact Runs.pure rfl

/-- What holds of all characters of a name is decided on the name, not on all characters that there
are. -/
local instance decidableForallMem (name : String) (p : Char → Prop) [DecidablePred p] :
    Decidable (∀ c ∈ name.toList, p c) := List.decidableBAll p name.toList

/-- **A class is looked up by the standard form of its name**, if there is no NUL in it.  That is
the name in modified UTF-8, in which strings are made, if and only if it has no supplementary
character either. -/
theorem looks_up_standard_form (binder : Binder) (host : Host) :
    (∃ calls, (binder.bind.run host).2.calls = host.calls ++ calls ∧
      Call.lookedUp calls =
        (if binder.binding = .fresh ∧ ∀ c ∈ binder.className.toList, 0 < c.toNat then
          [utf8 binder.className] else []) ∧
      (Call.lookedUp calls = [ModifiedUtf8.encode binder.className] ↔
        binder.binding = .fresh ∧ ∀ c ∈ binder.className.toList, ModifiedUtf8.Shared c)) ∧
    ∀ text, ((Native.newString text).run host).2.calls =
      host.calls ++ [.newString (ModifiedUtf8.encode text)] := by
  refine ⟨?_, fun text => Native.calls_newString text host⟩
  obtain ⟨calls, hcalls, -⟩ :=
    ((acts_bind (fun _ _ => trivial) binder).moved givesBack_any host).calls
  obtain ⟨after, made, host', hran, hmade⟩ := runs_bind_names binder host rfl
  have hlast : (binder.bind.run host).2 = host' := congrArg Prod.snd hran.run_eq
  have hnames := (hran.lookedUp (hlast ▸ hcalls)).trans hmade
  simp only [zero_notMem_utf8_iff] at hnames
  refine ⟨calls, hcalls, hnames, ?_⟩
  rw [hnames]
  split
  next h =>
    -- the standard form is passed, and the question is whether it is the modified one
    rw [List.cons_eq_cons, and_iff_left rfl, eq_comm, ModifiedUtf8.encode_eq_utf8_iff,
      and_iff_right rfl, and_iff_right h.1]
  next h =>
    refine iff_of_false (List.cons_ne_nil _ _).symm ?_
    rintro ⟨hfresh, hshared⟩
    exact h ⟨hfresh, fun c hc => (hshared c hc).1⟩

/-- The class `😀` can be asked for, and is looked up by another name than its own. -/
theorem misses_supplementary_class :
    Options.parse "result_class=😀" = .ok { resultClass := "😀" } ∧
    Call.lookedUp ((bind { className := "😀" }).run { vm := {} }).2.calls =
      [[0xF0, 0x9F, 0x98, 0x80]] ∧
    Call.lookedUp ((bind { className := "😀" }).run { vm := {} }).2.calls ≠
      [ModifiedUtf8.encode "😀"] :=
  ⟨by decide +kernel, by decide +kernel, by decide +kernel⟩

end Binder
end ClosureSpan
