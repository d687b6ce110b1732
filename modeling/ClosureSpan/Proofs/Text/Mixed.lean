import ClosureSpan.Proofs.ClassSet.Answers

/-!
# Texts in mixed form

The reader takes a character in either form, standard or modified.  It looks at one form at a time
and keeps nothing from the forms before, so the choice may be made anew for each character of a
text.  In particular it reads standard UTF-8, in which class files hand out their texts: a source
file that was decoded with its class file is decoded once more when the class is located, and stays
as it was.

## Main definitions

* `ModifiedUtf8.Encoding` — the two forms of a character.
* `ModifiedUtf8.mixed choice s` — a text whose characters are written in the forms chosen for them.

## Main results

* `ModifiedUtf8.decode_mixed` — a text is read back from any mixture of its forms.
* `reads_every_mixture` — **the same, with what it means for the locations of a class set.**
-/

namespace ClosureSpan
namespace ModifiedUtf8

/-! ### The two forms of a character -/

/-- The forms in which a character can be written. -/
inductive Encoding where
  /-- Standard UTF-8: NUL is one byte, and a supplementary character takes four. -/
  | standard
  /-- Modified UTF-8: NUL takes two bytes, and a supplementary character six. -/
  | modified
  deriving Repr, DecidableEq

/-- The bytes of a character in a form. -/
def Encoding.write : Encoding → Char → Bytes
  | standard => String.utf8EncodeChar
  | modified => encodeChar

/-- In either form a character is read as its code units, whatever follows it. -/
theorem unitsFrom_write_append (form : Encoding) (c : Char) (rest : Bytes) :
    unitsFrom 0 (form.write c ++ rest) = Utf16.units c ++ unitsFrom 0 rest := by
  cases form with
  | standard => exact unitsFrom_utf8EncodeChar_append c rest
  | modified => exact unitsFrom_encodeChar_append c rest

/-! ### Mixtures -/

/-- Characters in the forms chosen for them, where the first has the number `first`. -/
def mixedFrom (choice : Nat → Encoding) : Nat → List Char → Bytes
  | _, [] => []
  | first, c :: cs => (choice first).write c ++ mixedFrom choice (first + 1) cs

/-- A text whose characters are written in the forms chosen for them. -/
def mixed (choice : Nat → Encoding) (s : String) : Bytes := mixedFrom choice 0 s.toList

@[simp] theorem mixedFrom_nil (choice : Nat → Encoding) (first : Nat) :
    mixedFrom choice first [] = [] := rfl

@[simp] theorem mixedFrom_cons (choice : Nat → Encoding) (first : Nat) (c : Char)
    (cs : List Char) : mixedFrom choice first (c :: cs) =
      (choice first).write c ++ mixedFrom choice (first + 1) cs := rfl

/-- If the same form is chosen for all characters, they are written one by one. -/
theorem mixedFrom_const (form : Encoding) (first : Nat) (cs : List Char) :
    mixedFrom (fun _ => form) first cs = cs.flatMap form.write := by
  induction cs generalizing first with
  | nil => rfl
  | cons c cs ih => simp [ih]

/-- Standard UTF-8 is one of the mixtures. -/
theorem mixed_standard (s : String) : mixed (fun _ => .standard) s = utf8 s :=
  mixedFrom_const .standard 0 s.toList

/-- A mixture is read as the code units of its characters. -/
theorem unitsFrom_mixedFrom (choice : Nat → Encoding) (first : Nat) (cs : List Char) :
    unitsFrom 0 (mixedFrom choice first cs) = cs.flatMap Utf16.units := by
  -- the units of a surrogate pair stay together, since a character is read before any rest
  induction cs generalizing first with
  | nil => rfl
  | cons c cs ih =>
    have hfirst := unitsFrom_write_append (choice first) c (mixedFrom choice (first + 1) cs)
    rw [mixedFrom_cons, hfirst, ih, List.flatMap_cons]

/-- **A text is read back from any mixture of its forms.** -/
theorem decode_mixed (choice : Nat → Encoding) (s : String) : decode (mixed choice s) = s := by
  have hunits : unitsFrom 0 (mixed choice s) = s.toList.flatMap Utf16.units :=
    unitsFrom_mixedFrom choice 0 s.toList
  rw [decode, hunits, Utf16.chars_flatMap_units, String.ofList_toList]

-- NUL and a supplementary character are the characters whose two forms differ
example : mixed (fun i => if i = 0 then .standard else .modified) "\x00😀" =
    [0x00, 0xED, 0xA0, 0xBD, 0xED, 0xB8, 0x80] ∧
    mixed (fun i => if i = 0 then .modified else .standard) "\x00😀" =
    [0xC0, 0x80, 0xF0, 0x9F, 0x98, 0x80] := by
  decide +kernel

end ModifiedUtf8

/-- **The reader takes every mixture of the two forms.**  Each character of a text may be in either
form, whatever form the others are in, and the text is read back.  So is a text in standard UTF-8,
and the source file of a class, which was decoded once, is located under the name it then had. -/
theorem reads_every_mixture :
    (∀ (choice : Nat → ModifiedUtf8.Encoding) (s : String),
      ModifiedUtf8.decode (ModifiedUtf8.mixed choice s) = s) ∧
    (∀ s : String, ModifiedUtf8.decode (utf8 s) = s) ∧
    ∀ (set : ClassSet) (entry : String) (owner : Nat),
      (set.introspector.resolve entry owner).run.run =
        set.concluded entry owner
          ((set.introspector.select entry owner).run.run.map (Option.map Selection.span)) := by
  refine ⟨ModifiedUtf8.decode_mixed, ?_, fun set => set.run_resolve⟩
  intro s
  rw [← ModifiedUtf8.mixed_standard s]
  exact ModifiedUtf8.decode_mixed _ s

end ClosureSpan
