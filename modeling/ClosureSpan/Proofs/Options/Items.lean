import Mathlib.Data.List.Forall2
import Mathlib.Data.List.TakeWhile
import ClosureSpan.Options

/-!
# The items of an option text

An option text is described here from the side of whoever writes one.  Its pieces stand between
commas, an item is a piece without the blanks at its ends, and key and value stand on the two sides
of the first equals sign of an item, with blanks around them if one likes.

A comma always ends an item, so the items of two texts with a comma between them are the items of
the first and then those of the second.

## Main definitions

* `Trimmed text core` — `core` is the text without the blanks at its two ends.
* `Itemized text items` — the items between the commas of a text.
* `Pairs item key value` — the key and the value of an item.

## Main results

* `trim_eq_iff`, `itemized_iff`, `pairs_iff` — these are what is computed.
* `Options.items_append_comma` — the items of two texts with a comma between them.
-/

namespace ClosureSpan

variable {text core item : List Char}

/-! ### Trimming -/

/-- The core of a text is what stands between the blanks at its two ends, and it neither begins nor
ends with a blank. -/
structure Trimmed (text core : List Char) : Prop where
  /-- There are only blanks around the core. -/
  around : ∃ front back, text = front ++ core ++ back ∧ (∀ c ∈ front, isBlank c = true) ∧
    ∀ c ∈ back, isBlank c = true
  /-- It does not begin with a blank. -/
  first : ∀ c ∈ core.head?, isBlank c = false
  /-- It does not end with a blank. -/
  last : ∀ c ∈ core.getLast?, isBlank c = false

theorem trimStart_append {front : List Char} (h : ∀ c ∈ front, isBlank c = true)
    (rest : List Char) : trimStart (front ++ rest) = trimStart rest :=
  List.dropWhile_append_of_pos h

theorem trimStart_of_head (h : ∀ c ∈ text.head?, isBlank c = false) : trimStart text = text := by
  cases text with
  | nil => rfl
  | cons c text => exact List.dropWhile_cons_of_neg (by simp [h c rfl])

/-- What is dropped in front is blank, and what is left does not begin with a blank. -/
theorem exists_trimStart (text : List Char) :
    ∃ front, text = front ++ trimStart text ∧ (∀ c ∈ front, isBlank c = true) ∧
      ∀ c ∈ (trimStart text).head?, isBlank c = false := by
  refine ⟨text.takeWhile isBlank, List.takeWhile_append_dropWhile.symm, ?_, ?_⟩
  · exact fun c hc => List.mem_takeWhile_imp hc
  · intro c hc
    have hhead := List.head?_dropWhile_not isBlank text
    rw [trimStart, Option.mem_def] at hc
    rw [hc] at hhead
    exact hhead

theorem trimmed_trim (text : List Char) : Trimmed text (trim text) := by
  obtain ⟨front, hfront, hblank, hhead⟩ := exists_trimStart text
  obtain ⟨back, hback, hblank', hlast⟩ := exists_trimStart (trimStart text).reverse
  have hcore : trimStart text = trim text ++ back.reverse := by
    rw [trim, ← List.reverse_append, ← hback, List.reverse_reverse]
  refine ⟨⟨front, back.reverse, ?_, hblank, fun c hc => hblank' c (List.mem_reverse.mp hc)⟩, ?_, ?_⟩
  · rw [List.append_assoc, ← hcore]
    exact hfront
  · -- the core begins where the blanks in front end
    intro c hc
    refine hhead c ?_
    rw [hcore, List.head?_append, Option.mem_def.mp hc, Option.some_or]
    rfl
  · intro c hc
    rw [trim, List.getLast?_reverse] at hc
    exact hlast c hc

theorem Trimmed.trim_eq (h : Trimmed text core) : trim text = core := by
  obtain ⟨front, back, rfl, hfront, hback⟩ := h.around
  have hback' : ∀ c ∈ back.reverse, isBlank c = true := fun c hc => hback c (List.mem_reverse.mp hc)
  rw [trim, List.append_assoc, trimStart_append hfront]
  by_cases hnil : core = []
  · -- all of the text is blank
    have hall : trimStart back = [] := by
      rw [← List.append_nil back, trimStart_append hback]
      rfl
    subst hnil
    rw [List.nil_append, hall]
    rfl
  · have hfirst : ∀ c ∈ (core ++ back).head?, isBlank c = false := by
      rw [List.head?_append_of_ne_nil _ hnil]
      exact h.first
    have hlast : ∀ c ∈ core.reverse.head?, isBlank c = false := by
      rw [List.head?_reverse]
      exact h.last
    rw [trimStart_of_head hfirst, List.reverse_append, trimStart_append hback',
      trimStart_of_head hlast, List.reverse_reverse]

/-- A text has one core. -/
theorem trim_eq_iff : trim text = core ↔ Trimmed text core := by
  constructor
  · rintro rfl
    exact trimmed_trim text
  · exact Trimmed.trim_eq

/-! ### Items -/

/-- The pieces of the text stand between its commas, and the items are their cores, without the
empty ones. -/
def Itemized (text : List Char) (items : List (List Char)) : Prop :=
  ∃ pieces cores, pieces ≠ [] ∧ (∀ piece ∈ pieces, ',' ∉ piece) ∧
    text = [','].intercalate pieces ∧ List.Forall₂ Trimmed pieces cores ∧
    items = cores.filter (· ≠ [])

/-- No piece has the character that separates the pieces. -/
theorem notMem_of_mem_splitOn {separator : Char} {piece : List Char}
    (h : piece ∈ text.splitOn separator) : separator ∉ piece := by
  induction text generalizing piece with
  | nil =>
    obtain rfl : piece = [] := by simpa using h
    exact List.not_mem_nil
  | cons c text ih =>
    rw [List.splitOn_cons_eq_if_modifyHead] at h
    obtain ⟨first, more, hsplit⟩ := List.exists_cons_of_ne_nil (List.splitOn_ne_nil separator text)
    rw [hsplit] at h ih
    by_cases hc : (c == separator) = true
    · rw [if_pos hc] at h
      rcases List.mem_cons.mp h with rfl | h
      · exact List.not_mem_nil
      · exact ih h
    · rw [if_neg hc, List.modifyHead_cons] at h
      rcases List.mem_cons.mp h with rfl | h
      · have hne : separator ≠ c := fun heq => hc (beq_iff_eq.mpr heq.symm)
        exact List.not_mem_cons_of_ne_of_not_mem hne (ih List.mem_cons_self)
      · exact ih (List.mem_cons_of_mem _ h)

theorem forall₂_trimmed_iff {pieces cores : List (List Char)} :
    List.Forall₂ Trimmed pieces cores ↔ pieces.map trim = cores := by
  rw [← List.forall₂_eq_eq_eq, List.forall₂_map_left_iff]
  simp only [trim_eq_iff]

/-- A text has one list of items. -/
theorem itemized_iff {items : List (List Char)} :
    Itemized text items ↔ items = Options.items text := by
  unfold Options.items
  constructor
  · rintro ⟨pieces, cores, hne, hcomma, rfl, hcores, rfl⟩
    rw [List.splitOn_intercalate ',' hcomma hne, forall₂_trimmed_iff.mp hcores]
  · rintro rfl
    refine ⟨text.splitOn ',', _, List.splitOn_ne_nil ',' text, fun _ => notMem_of_mem_splitOn,
      (List.intercalate_splitOn ',').symm, forall₂_trimmed_iff.mpr rfl, rfl⟩

/-- A comma separates the items in front of it from those behind it. -/
theorem Options.items_append_comma (front back : List Char) :
    items (front ++ ',' :: back) = items front ++ items back := by
  unfold items
  rw [List.splitOn_append_cons_self, List.map_append, List.filter_append]

/-! ### Keys and values -/

/-- Key and value stand around the first equals sign of the item, and perhaps blanks around each. -/
def Pairs (item : List Char) (key value : String) : Prop :=
  ∃ front back, item = front ++ '=' :: back ∧ '=' ∉ front ∧ Trimmed front key.toList ∧
    Trimmed back value.toList

theorem keyAndValue_of_notMem (h : '=' ∉ item) : keyAndValue item = none := by
  have hall : item.dropWhile (· ≠ '=') = [] := by
    refine List.dropWhile_eq_nil_iff.mpr fun c hc => decide_eq_true ?_
    rintro rfl
    exact h hc
  rw [keyAndValue, hall]

theorem keyAndValue_append {front : List Char} (h : '=' ∉ front) (back : List Char) :
    keyAndValue (front ++ '=' :: back) = some (front, back) := by
  have hfront : ∀ c ∈ front, decide (c ≠ '=') = true := by
    refine fun c hc => decide_eq_true ?_
    rintro rfl
    exact h hc
  have hbehind : (front ++ '=' :: back).dropWhile (· ≠ '=') = '=' :: back :=
    List.dropWhile_append_of_pos hfront
  have hbefore : (front ++ '=' :: back).takeWhile (· ≠ '=') = front :=
    (List.takeWhile_append_of_pos hfront).trans (List.append_nil front)
  rw [keyAndValue, hbehind, hbefore]

theorem ofList_trim_eq_iff {text : List Char} {s : String} :
    String.ofList (trim text) = s ↔ Trimmed text s.toList := by
  rw [← trim_eq_iff, ← String.ofList_inj, String.ofList_toList]

theorem exists_pairs (h : '=' ∈ item) : ∃ key value, Pairs item key value := by
  obtain ⟨front, back, rfl, hfront⟩ := List.eq_append_cons_of_mem h
  exact ⟨_, _, front, back, rfl, hfront, ofList_trim_eq_iff.mp rfl, ofList_trim_eq_iff.mp rfl⟩

/-- What stands around the sign is trimmed. -/
theorem Pairs.map_keyAndValue {key value : String} (h : Pairs item key value) :
    (keyAndValue item).map (fun pair => (String.ofList (trim pair.1),
      String.ofList (trim pair.2))) = some (key, value) := by
  obtain ⟨front, back, rfl, hfront, hkey, hvalue⟩ := h
  rw [keyAndValue_append hfront, Option.map_some, ofList_trim_eq_iff.mpr hkey,
    ofList_trim_eq_iff.mpr hvalue]

/-- An item with an equals sign has one key and one value. -/
theorem pairs_iff {key value : String} :
    Pairs item key value ↔
      (keyAndValue item).map (fun pair => (String.ofList (trim pair.1),
        String.ofList (trim pair.2))) = some (key, value) := by
  refine ⟨Pairs.map_keyAndValue, fun h => ?_⟩
  by_cases hmem : '=' ∈ item
  · obtain ⟨key', value', hpairs⟩ := exists_pairs hmem
    cases hpairs.map_keyAndValue.symm.trans h
    exact hpairs
  · rw [keyAndValue_of_notMem hmem] at h
    cases h

namespace Pairs

variable {key value other value' : String}

theorem unique (h : Pairs item key value) (h' : Pairs item other value') :
    other = key ∧ value' = value := by
  rw [pairs_iff] at h h'
  exact Prod.mk.inj (Option.some.inj (h'.symm.trans h))

/-- An item gives a value to one key only. -/
theorem not_of_ne (h : Pairs item key value) (hne : other ≠ key) (value' : String) :
    ¬ Pairs item other value' := fun h' => hne (h.unique h').1

end Pairs

/-- The value goes on behind a second equals sign. -/
example : Pairs " log = a=b ".toList "log" "a=b" := pairs_iff.mpr (by decide)

end ClosureSpan
