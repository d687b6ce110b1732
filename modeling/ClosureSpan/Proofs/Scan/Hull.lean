import Mathlib.Order.Bounds.Basic
import ClosureSpan.Span

/-!
# The span is a hull

A line table is gone through row by row, and the span grows with every row that counts.  What comes
out depends on the set of these rows only: it is the least interval that holds all of their lines.
So neither the order of the rows matters nor how often one is given, and a further marker can only
take rows away.

A row counts if no marker is visible there.  This is said of scopes that end at their start plus
their length, and holds as long as a word of 64 bits holds this sum.  Otherwise another end is
computed, and the interval of the marker is not its scope.

## Main definitions

* `hull lines` — the least span that holds the lines, built up line by line.
* `IsHull lines span?` — the least interval that holds the lines, if there is any line.
* `Scope.EndsInWord`, `MarkersEndInWord` — the end of a scope is computed as it should be.
* `LineRow.Counts scopes row` — a row that has a line and is not inlined.
* `countedLines rows scopes` — the lines of the rows that count.

## Main results

* `analyze_eq_hull` — the span that is built up from zero is the least one of the lines.
* `isHull_hull` — the span of a list is the hull of its elements.
* `isHull_analyze` — so is the span of a table for the rows that survive.
* `analyze_is_hull` — **the span is the hull of the rows that count, and of nothing else.**
-/

namespace ClosureSpan

/-! ### The rows that survive -/

/-- A row survives if it has a line and none of the intervals contains it. -/
def LineRow.survives (ranges : List InlineRange) (row : LineRow) : Bool :=
  0 < row.line && !ranges.any fun range => range.contains row.location

/-- The lines of the rows that survive, in table order. -/
def survivingLines (ranges : List InlineRange) (rows : List LineRow) : List Int :=
  (rows.filter (LineRow.survives ranges)).map LineRow.line

/-- The least span that also holds `line`. -/
def LineSpan.extend (span : LineSpan) (line : Int) : LineSpan :=
  ⟨min span.first line, max span.last line⟩

/-- The least span that holds all of the lines. -/
def hull : List Int → Option LineSpan
  | [] => none
  | line :: rest => some (rest.foldl LineSpan.extend ⟨line, line⟩)

section Survivors

variable {ranges : List InlineRange} {row : LineRow} {line : Int}

theorem LineRow.survives_iff : row.survives ranges = true ↔
    0 < row.line ∧ ¬ (ranges.any fun range => range.contains row.location) = true := by
  rw [survives, Bool.and_eq_true, decide_eq_true_eq, Bool.not_eq_true', Bool.not_eq_true]

/-- Only rows with a line survive. -/
theorem LineRow.line_pos_of_survives (h : row.survives ranges = true) : 0 < row.line :=
  (survives_iff.mp h).1

theorem mem_survivingLines {rows : List LineRow} :
    line ∈ survivingLines ranges rows ↔
      ∃ row ∈ rows, row.survives ranges = true ∧ row.line = line := by
  simp only [survivingLines, List.mem_map, List.mem_filter, and_assoc]

/-- With fewer rows and more intervals fewer lines survive. -/
theorem survivingLines_subset {rows fewer : List LineRow} {more : List InlineRange}
    (hrows : fewer ⊆ rows) (hranges : ranges ⊆ more) :
    survivingLines more fewer ⊆ survivingLines ranges rows := by
  intro line hline
  obtain ⟨row, hrow, hsurvives, rfl⟩ := mem_survivingLines.mp hline
  obtain ⟨hpos, hfree⟩ := LineRow.survives_iff.mp hsurvives
  refine mem_survivingLines.mpr ⟨row, hrows hrow, LineRow.survives_iff.mpr ⟨hpos, ?_⟩, rfl⟩
  intro hany
  apply hfree
  obtain ⟨range, hrange, hinside⟩ := List.any_eq_true.mp hany
  exact List.any_eq_true.mpr ⟨range, hranges hrange, hinside⟩

theorem survivingLines_cons_of_survives (rows : List LineRow) (h : row.survives ranges = true) :
    survivingLines ranges (row :: rows) = row.line :: survivingLines ranges rows := by
  rw [survivingLines, List.filter_cons_of_pos h, List.map_cons, ← survivingLines]

theorem survivingLines_cons_of_not_survives (rows : List LineRow)
    (h : ¬ row.survives ranges = true) :
    survivingLines ranges (row :: rows) = survivingLines ranges rows := by
  rw [survivingLines, List.filter_cons_of_neg h, ← survivingLines]

/-! ### The span that is built up -/

theorem LineSpan.visit_of_not_survives (span : LineSpan) (h : ¬ row.survives ranges = true) :
    span.visit ranges row = span := by
  unfold visit
  split
  · rfl
  split
  · rfl
  next hpos hfree => exact absurd (LineRow.survives_iff.mpr ⟨Int.not_le.mp hpos, hfree⟩) h

theorem LineSpan.visit_of_survives (span : LineSpan) (h : row.survives ranges = true) :
    span.visit ranges row =
      if span.first = 0 then ⟨row.line, row.line⟩ else span.extend row.line := by
  obtain ⟨hpos, hfree⟩ := LineRow.survives_iff.mp h
  rw [visit, if_neg (Int.not_le.mpr hpos), if_neg hfree]
  rfl

/-- Once there is a span it is extended, and stays one. -/
theorem foldl_visit (ranges : List InlineRange) (rows : List LineRow) {span : LineSpan}
    (h : 0 < span.first) :
    rows.foldl (LineSpan.visit ranges) span =
        (survivingLines ranges rows).foldl LineSpan.extend span ∧
      0 < ((survivingLines ranges rows).foldl LineSpan.extend span).first := by
  induction rows generalizing span with
  | nil => exact ⟨rfl, h⟩
  | cons row rows ih =>
    rw [List.foldl_cons]
    by_cases hrow : row.survives ranges = true
    · have hpos : 0 < (span.extend row.line).first :=
        lt_min h (LineRow.line_pos_of_survives hrow)
      rw [span.visit_of_survives hrow, if_neg h.ne', survivingLines_cons_of_survives rows hrow]
      exact ih hpos
    · rw [span.visit_of_not_survives hrow, survivingLines_cons_of_not_survives rows hrow]
      exact ih h

/-- What is built up from zero is zero as long as no line survives, and then the span of the
lines. -/
theorem foldl_visit_zero (ranges : List InlineRange) (rows : List LineRow) :
    match hull (survivingLines ranges rows) with
    | none => rows.foldl (LineSpan.visit ranges) ⟨0, 0⟩ = ⟨0, 0⟩
    | some span => rows.foldl (LineSpan.visit ranges) ⟨0, 0⟩ = span ∧ 0 < span.first := by
  induction rows with
  | nil => rfl
  | cons row rows ih =>
    rw [List.foldl_cons]
    by_cases hrow : row.survives ranges = true
    · have hstart : 0 < (LineSpan.mk row.line row.line).first := LineRow.line_pos_of_survives hrow
      rw [LineSpan.visit_of_survives _ hrow, if_pos rfl, survivingLines_cons_of_survives rows hrow]
      exact foldl_visit ranges rows hstart
    · rw [LineSpan.visit_of_not_survives _ hrow, survivingLines_cons_of_not_survives rows hrow]
      exact ih

/-- **The span of a table is built up from the lines that survive.**  As long as there is none, zero
stands for the first line; this is told from a line, since all lines are positive. -/
theorem analyze_eq_hull (rows : List LineRow) (ranges : List InlineRange) :
    analyze rows ranges = hull (survivingLines ranges rows) := by
  have hfold := foldl_visit_zero ranges rows
  unfold analyze
  cases hhull : hull (survivingLines ranges rows) with
  | none =>
    rw [hhull] at hfold
    simp only [hfold]
    rfl
  | some span =>
    rw [hhull] at hfold
    simp only [hfold.1, if_pos hfold.2]

end Survivors

/-! ### Hulls -/

/-- The least interval that holds the lines, if there is any line.  Both of its ends are lines. -/
inductive IsHull (lines : Set Int) : Option LineSpan → Prop
  /-- Without lines there is no interval. -/
  | none (hempty : ∀ line, line ∉ lines) : IsHull lines none
  /-- From the least line to the greatest. -/
  | some {span : LineSpan} (hfirst : IsLeast lines span.first)
    (hlast : IsGreatest lines span.last) : IsHull lines (some span)

namespace IsHull

variable {lines : Set Int} {span : LineSpan}

theorem bounds (h : IsHull lines (Option.some span)) :
    IsLeast lines span.first ∧ IsGreatest lines span.last := by
  cases h with
  | some hfirst hlast => exact ⟨hfirst, hlast⟩

/-- Lines have one hull. -/
theorem unique {span? other? : Option LineSpan} (h : IsHull lines span?)
    (h' : IsHull lines other?) : span? = other? := by
  cases h with
  | none hempty =>
    cases h' with
    | none => rfl
    | some hfirst _ => exact absurd hfirst.1 (hempty _)
  | @some span hfirst hlast =>
    cases h' with
    | none hempty => exact absurd hfirst.1 (hempty _)
    | @some other hfirst' hlast' =>
      obtain ⟨first, last⟩ := span
      obtain ⟨first', last'⟩ := other
      obtain rfl : first = first' := hfirst.unique hfirst'
      obtain rfl : last = last' := hlast.unique hlast'
      rfl

theorem eq_some_iff {span? : Option LineSpan} (h : IsHull lines span?) :
    span? = Option.some span ↔ IsLeast lines span.first ∧ IsGreatest lines span.last := by
  constructor
  · rintro rfl
    exact h.bounds
  · rintro ⟨hfirst, hlast⟩
    exact h.unique (.some hfirst hlast)

theorem eq_none_iff {span? : Option LineSpan} (h : IsHull lines span?) :
    span? = Option.none ↔ ∀ line, line ∉ lines := by
  constructor
  · rintro rfl
    cases h with
    | none hempty => exact hempty
  · intro hempty
    exact h.unique (.none hempty)

/-- With one more line the hull is extended by that line. -/
theorem extend (h : IsHull lines (Option.some span)) (line : Int) :
    IsHull (insert line lines) (Option.some (span.extend line)) := by
  obtain ⟨hfirst, hlast⟩ := h.bounds
  refine .some ?_ ?_
  · change IsLeast (insert line lines) (min span.first line)
    rw [min_comm]
    exact hfirst.insert line
  · change IsGreatest (insert line lines) (max span.last line)
    rw [max_comm]
    exact hlast.insert line

/-- The hull is extended by one line after the other. -/
theorem foldl_extend (h : IsHull lines (Option.some span)) (more : List Int) :
    IsHull (lines ∪ {line | line ∈ more}) (Option.some (more.foldl LineSpan.extend span)) := by
  induction more generalizing lines span with
  | nil =>
    have hsame : lines ∪ {line | line ∈ ([] : List Int)} = lines := by simp
    rwa [hsame]
  | cons line more ih =>
    have hsame : lines ∪ {other | other ∈ line :: more} =
        insert line lines ∪ {other | other ∈ more} := by
      ext other
      simp only [Set.mem_union, Set.mem_insert_iff, Set.mem_ofPred_eq, List.mem_cons]
      tauto
    rw [hsame]
    exact ih (h.extend line)

/-- Of two sets of lines the larger one has the wider hull. -/
theorem wider {wide : Set Int} {span? : Option LineSpan} (h : IsHull lines (Option.some span))
    (h' : IsHull wide span?) (hsub : lines ⊆ wide) :
    ∃ other, span? = Option.some other ∧ other.first ≤ span.first ∧ span.last ≤ other.last := by
  obtain ⟨hfirst, hlast⟩ := h.bounds
  cases h' with
  | none hempty => exact absurd (hsub hfirst.1) (hempty _)
  | @some other hfirst' hlast' =>
    exact ⟨other, rfl, hfirst'.2 (hsub hfirst.1), hlast'.2 (hsub hlast.1)⟩

end IsHull

/-- The span of a list is the hull of its elements. -/
theorem isHull_hull (lines : List Int) : IsHull {line | line ∈ lines} (hull lines) := by
  cases lines with
  | nil => exact .none fun line => List.not_mem_nil
  | cons line rest =>
    have hstart : IsHull {line} (some ⟨line, line⟩) := .some isLeast_singleton isGreatest_singleton
    have hsame : ({line} ∪ {other | other ∈ rest} : Set Int) = {other | other ∈ line :: rest} := by
      ext other
      simp
    rw [← hsame]
    exact hstart.foldl_extend rest

/-- The span of a table is the hull of the lines that survive. -/
theorem isHull_analyze (rows : List LineRow) (ranges : List InlineRange) :
    IsHull {line | line ∈ survivingLines ranges rows} (analyze rows ranges) := by
  rw [analyze_eq_hull]
  exact isHull_hull _

/-- The lines of a span are positive and in order. -/
theorem ordered_of_analyze {rows : List LineRow} {ranges : List InlineRange} {span : LineSpan}
    (h : analyze rows ranges = some span) : 0 < span.first ∧ span.first ≤ span.last := by
  obtain ⟨hfirst, hlast⟩ := (isHull_analyze rows ranges).eq_some_iff.mp h
  obtain ⟨row, -, hsurvives, hline⟩ := mem_survivingLines.mp hfirst.1
  exact ⟨hline ▸ LineRow.line_pos_of_survives hsurvives, hfirst.2 hlast.1⟩

/-! ### The rows that count -/

/-- A word of 64 bits holds the end of the scope. -/
def Scope.EndsInWord (scope : Scope) : Prop :=
  -0x8000000000000000 ≤ scope.start + scope.length ∧
    scope.start + scope.length ≤ 0x7FFFFFFFFFFFFFFF

/-- Words of 64 bits hold the ends of the scopes of all markers. -/
def MarkersEndInWord (scopes : List Scope) : Prop :=
  ∀ scope ∈ scopes, inlineMarker <+: scope.name → scope.EndsInWord

/-- A marker variable is visible at the location. -/
def Inlined (scopes : List Scope) (location : Int) : Prop :=
  ∃ scope ∈ scopes, inlineMarker <+: scope.name ∧
    scope.start ≤ location ∧ location < scope.start + scope.length

/-- A row counts if it has a line and is not inlined. -/
def LineRow.Counts (scopes : List Scope) (row : LineRow) : Prop :=
  0 < row.line ∧ ¬ Inlined scopes row.location

/-- The lines of the rows that count. -/
def countedLines (rows : List LineRow) (scopes : List Scope) : Set Int :=
  {line | ∃ row ∈ rows, row.Counts scopes ∧ row.line = line}

/-- An end that a word holds is computed as it should be. -/
theorem Scope.stop_range {scope : Scope} (h : scope.EndsInWord) :
    scope.range.stop = scope.start + scope.length := by
  obtain ⟨hleast, hgreatest⟩ := h
  rw [range, ← Int64.ofInt_add]
  exact Int64.toInt_ofInt_of_le (by omega) (by omega)

theorem Scope.contains_range_iff {scope : Scope} (h : scope.EndsInWord) {location : Int} :
    scope.range.contains location = true ↔
      scope.start ≤ location ∧ location < scope.start + scope.length := by
  rw [InlineRange.contains, Bool.and_eq_true, decide_eq_true_eq, decide_eq_true_eq,
    Scope.stop_range h, Scope.range]

/-- The intervals of the markers contain what is inlined. -/
theorem any_contains_iff {scopes : List Scope} (h : MarkersEndInWord scopes) {location : Int} :
    ((inlineRanges scopes).any fun range => range.contains location) = true ↔
      Inlined scopes location := by
  simp only [inlineRanges, isInlineMarker, List.any_map, List.any_filter, List.any_eq_true,
    Function.comp_apply, Bool.and_eq_true, List.isPrefixOf_iff_prefix]
  apply exists_congr
  intro scope
  apply and_congr_right
  intro hscope
  apply and_congr_right
  intro hmarker
  exact Scope.contains_range_iff (h scope hscope hmarker)

/-- What survives the intervals of the markers is what counts. -/
theorem survives_iff_counts {scopes : List Scope} (h : MarkersEndInWord scopes) {row : LineRow} :
    row.survives (inlineRanges scopes) = true ↔ row.Counts scopes := by
  rw [LineRow.survives_iff, any_contains_iff h, LineRow.Counts]

theorem isHull_countedLines (rows : List LineRow) {scopes : List Scope}
    (h : MarkersEndInWord scopes) :
    IsHull (countedLines rows scopes) (analyze rows (inlineRanges scopes)) := by
  have hhull := isHull_analyze rows (inlineRanges scopes)
  simp only [mem_survivingLines, survives_iff_counts h] at hhull
  exact hhull

/-! ### The span of a table -/

theorem inlineRanges_subset {scopes more : List Scope} (h : scopes ⊆ more) :
    inlineRanges scopes ⊆ inlineRanges more :=
  List.map_subset _ (List.filter_subset _ h)

/-- Only which rows there are matters, and only which variables. -/
theorem analyze_congr {rows rows' : List LineRow} {scopes scopes' : List Scope}
    (hrows : ∀ row, row ∈ rows' ↔ row ∈ rows)
    (hscopes : ∀ scope, scope ∈ scopes' ↔ scope ∈ scopes) :
    analyze rows' (inlineRanges scopes') = analyze rows (inlineRanges scopes) := by
  have hlines : {line | line ∈ survivingLines (inlineRanges scopes') rows'} =
      {line | line ∈ survivingLines (inlineRanges scopes) rows} := by
    apply Set.Subset.antisymm
    · exact survivingLines_subset (fun row => (hrows row).mp)
        (inlineRanges_subset fun scope => (hscopes scope).mpr)
    · exact survivingLines_subset (fun row => (hrows row).mpr)
        (inlineRanges_subset fun scope => (hscopes scope).mp)
  have hhull := isHull_analyze rows' (inlineRanges scopes')
  rw [hlines] at hhull
  exact hhull.unique (isHull_analyze rows (inlineRanges scopes))

/-- **The span is the hull of the rows that count.**  If words hold the ends of the scopes of all
markers, there is none exactly if no row counts, and otherwise it goes from the least line of these
rows to the greatest.  Whatever the scopes are, the lines of a span are positive and in order; it is
the same for all tables with the same rows, in any order and any number, and with more variables it
becomes narrower or is lost. -/
theorem analyze_is_hull (rows : List LineRow) (scopes : List Scope) :
    (MarkersEndInWord scopes →
      (analyze rows (inlineRanges scopes) = none ↔ ∀ row ∈ rows, ¬ row.Counts scopes) ∧
      ∀ span, analyze rows (inlineRanges scopes) = some span ↔
        IsLeast (countedLines rows scopes) span.first ∧
          IsGreatest (countedLines rows scopes) span.last) ∧
      (∀ span, analyze rows (inlineRanges scopes) = some span →
        0 < span.first ∧ span.first ≤ span.last) ∧
      (∀ rows' scopes', (∀ row, row ∈ rows' ↔ row ∈ rows) →
        (∀ scope, scope ∈ scopes' ↔ scope ∈ scopes) →
        analyze rows' (inlineRanges scopes') = analyze rows (inlineRanges scopes)) ∧
      ∀ more, scopes ⊆ more → ∀ narrow, analyze rows (inlineRanges more) = some narrow →
        ∃ span, analyze rows (inlineRanges scopes) = some span ∧
          span.first ≤ narrow.first ∧ narrow.last ≤ span.last := by
  refine ⟨?_, fun span => ordered_of_analyze, fun rows' scopes' => analyze_congr, ?_⟩
  · intro hwords
    have hhull := isHull_countedLines rows hwords
    refine ⟨?_, fun span => hhull.eq_some_iff⟩
    rw [hhull.eq_none_iff]
    constructor
    · exact fun hempty row hrow hcounts => hempty row.line ⟨row, hrow, hcounts, rfl⟩
    · rintro hnone line ⟨row, hrow, hcounts, -⟩
      exact hnone row hrow hcounts
  · intro more hmore narrow hnarrow
    have hhull := isHull_analyze rows (inlineRanges more)
    rw [hnarrow] at hhull
    exact hhull.wider (isHull_analyze rows (inlineRanges scopes))
      (survivingLines_subset (List.Subset.refl rows) (inlineRanges_subset hmore))

/-- The row at 4 is inlined, and the row at 8 has no line. -/
def partlyInlined : List LineRow := [⟨0, 7⟩, ⟨4, 90⟩, ⟨6, 5⟩, ⟨8, 0⟩]

/-- A marker of two locations, and one whose scope has the last location for its end. -/
def twoMarkers : List Scope :=
  [⟨inlineMarker ++ [0x66], 4, 2⟩, ⟨inlineMarker, 0x7FFFFFFFFFFFFFFE, 1⟩]

theorem analyze_is_hull_twoMarkers :
    MarkersEndInWord twoMarkers ∧
      analyze partlyInlined (inlineRanges twoMarkers) = some ⟨5, 7⟩ ∧
      IsLeast (countedLines partlyInlined twoMarkers) 5 ∧
      IsGreatest (countedLines partlyInlined twoMarkers) 7 := by
  have hwords : MarkersEndInWord twoMarkers := by
    simp [MarkersEndInWord, Scope.EndsInWord, twoMarkers]
  have hspan : analyze partlyInlined (inlineRanges twoMarkers) = some ⟨5, 7⟩ := by decide +kernel
  have hhull := ((analyze_is_hull partlyInlined twoMarkers).1 hwords).2 ⟨5, 7⟩
  exact ⟨hwords, hspan, hhull.mp hspan⟩

/-- The end of this scope is no word, so that what is computed contains nothing. -/
example : analyze [⟨0x7FFFFFFFFFFFFFFF, 5⟩]
    (inlineRanges [⟨inlineMarker, 0x7FFFFFFFFFFFFFFF, 1⟩]) = some ⟨5, 5⟩ := by decide +kernel

end ClosureSpan
