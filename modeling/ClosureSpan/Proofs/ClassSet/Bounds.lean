import ClosureSpan.Proofs.ClassFile.Acceptance
import ClosureSpan.Proofs.ClassSet.Overloads
import ClosureSpan.Proofs.ClassSet.Persistence
import ClosureSpan.Proofs.Scan.Hull

/-!
# The numbers of class files

The numbers in the tables of a class file take two bytes each, and no sign.  So everything that is
computed from them stays small.  The end of a scope is the sum of two of them, which a word of 64
bits holds, and the lines of a span are some of them, but not zero.

This is so for class files that were parsed.  What is inserted into a class set without being parsed
may have any numbers.

## Main definitions

* `LineRow.Fits`, `VariableRow.Fits`, `MethodInfo.Fits` — tables with numbers of two bytes.
* `exactRanges` — the intervals of the markers, with sums of any size.
* `MethodInfo.Bounded`, `LineSpan.Bounded` — what is said of a method, and of a span.
* `ClassSet.ofFiles` — a class set to which files were added and nothing else.

## Main results

* `ClassFile.fits_of_parse` — the numbers of a class file that was parsed.
* `inlineRanges_eq_exactRanges` — where no sum overflows, the intervals are computed as they should
  be.
* `numbers_stay_in_bounds` — **no number of a class file leads out of its bounds.**
-/

namespace ClosureSpan

/-! ### Numbers of two bytes -/

/-- Two bytes hold the number. -/
def FitsTwoBytes (n : Int) : Prop := 0 ≤ n ∧ n ≤ 0xFFFF

theorem fitsTwoBytes_toNat (n : UInt16) : FitsTwoBytes n.toNat := by
  have hlt := n.toNat_lt
  constructor <;> omega

/-- Two bytes hold each number of the row. -/
structure LineRow.Fits (row : LineRow) : Prop where
  location : FitsTwoBytes row.location
  line : FitsTwoBytes row.line

/-- Two bytes hold each number of the row. -/
structure VariableRow.Fits (row : VariableRow) : Prop where
  start : FitsTwoBytes row.start
  length : FitsTwoBytes row.length
  slot : FitsTwoBytes row.slot

/-- Two bytes hold each number of the table. -/
def CodeTable.Fits : CodeTable → Prop
  | .lines rows => ∀ row ∈ rows, row.Fits
  | .locals rows => ∀ row ∈ rows, row.Fits
  | .other => True

namespace CodeTable.Fits

variable {table : CodeTable} (h : table.Fits)

include h

theorem lines {rows : List LineRow} (hrows : table.lines? = some rows) :
    ∀ row ∈ rows, row.Fits := by
  cases table <;> cases hrows
  exact h

theorem locals {rows : List VariableRow} (hrows : table.locals? = some rows) :
    ∀ row ∈ rows, row.Fits := by
  cases table <;> cases hrows
  exact h

end CodeTable.Fits

/-- Two bytes hold each number in the tables of the method. -/
structure MethodInfo.Fits (info : MethodInfo) : Prop where
  lines : ∀ rows, info.lines = some rows → ∀ row ∈ rows, row.Fits
  locals : ∀ rows, info.locals = some rows → ∀ row ∈ rows, row.Fits

/-! ### What is read fits -/

/-- What holds of everything that is denoted holds of all that a list denotes. -/
theorem forall_mem_of_forall₂ {α β : Type} {Means : α → β → Prop} {P : β → Prop}
    {raws : List α} {values : List β} (h : List.Forall₂ Means raws values)
    (hmeans : ∀ raw value, Means raw value → P value) : ∀ value ∈ values, P value := by
  induction h with
  | nil => exact nofun
  | cons hraw _ ih => exact List.forall_mem_cons.mpr ⟨hmeans _ _ hraw, ih⟩

variable {pool : ConstantPool}

theorem RawLineRow.fits (raw : RawLineRow) : raw.row.Fits :=
  ⟨fitsTwoBytes_toNat _, fitsTwoBytes_toNat _⟩

theorem RawVariableRow.Denotes.fits {raw : RawVariableRow} {row : VariableRow}
    (h : raw.Denotes pool row) : row.Fits where
  start := h.start ▸ fitsTwoBytes_toNat _
  length := h.length ▸ fitsTwoBytes_toNat _
  slot := h.slot ▸ fitsTwoBytes_toNat _

theorem TableBody.fits {name : String} {body : Bytes} {table : CodeTable}
    (h : TableBody pool name body table) : table.Fits := by
  cases h with
  | lines rows slack =>
    intro row hrow
    obtain ⟨raw, -, rfl⟩ := List.mem_map.mp hrow
    exact raw.fits
  | locals rows slack hrows => exact forall_mem_of_forall₂ hrows fun _ _ hraw => hraw.fits
  | other => trivial

theorem MethodBody.fits {name : String} {body : Bytes} {tables : List CodeTable}
    (h : MethodBody pool name body tables) : ∀ table ∈ tables, table.Fits := by
  cases h with
  | code code slack htables =>
    refine forall_mem_of_forall₂ htables ?_
    rintro raw table ⟨name, -, htable⟩
    exact htable.fits
  | other => exact nofun

/-- The rows of tables that are joined are those of the tables. -/
theorem RawMethod.Joined.forall_mem {ρ : Type} {pick : CodeTable → Option (List ρ)} {P : ρ → Prop}
    {tables : List CodeTable} {rows : List ρ} (h : Joined (tables.filterMap pick) (some rows))
    (hpick : ∀ table ∈ tables, ∀ picked, pick table = some picked → ∀ row ∈ picked, P row) :
    ∀ row ∈ rows, P row := by
  obtain ⟨-, rfl⟩ := h
  intro row hrow
  obtain ⟨picked, hpicked, hrow⟩ := List.mem_flatten.mp hrow
  obtain ⟨table, htable, hsome⟩ := List.mem_filterMap.mp hpicked
  exact hpick table htable picked hsome row hrow

theorem RawMethod.Denotes.fits {raw : RawMethod} {info : MethodInfo} (h : raw.Denotes pool info) :
    info.Fits := by
  obtain ⟨tables, htables, hlines, hlocals⟩ := h.tables
  have hparts : ∀ part ∈ tables, ∀ table ∈ part, table.Fits := by
    refine forall_mem_of_forall₂ htables ?_
    rintro raw part ⟨name, -, hpart⟩
    exact hpart.fits
  have hfits : ∀ table ∈ tables.flatten, table.Fits := by
    intro table htable
    obtain ⟨part, hpart, htable⟩ := List.mem_flatten.mp htable
    exact hparts part hpart table htable
  constructor
  case lines =>
    intro rows hrows
    rw [hrows] at hlines
    exact hlines.forall_mem fun table htable _ hlines => (hfits table htable).lines hlines
  case locals =>
    intro rows hrows
    rw [hrows] at hlocals
    exact hlocals.forall_mem fun table htable _ hlocals => (hfits table htable).locals hlocals

/-- **The numbers of a class file that was parsed take two bytes.** -/
theorem ClassFile.fits_of_parse {bs : Bytes} {file : ClassFile} (h : parse bs = .ok file) :
    ∀ info ∈ file.methods.toList, info.Fits := by
  obtain ⟨rest, hread⟩ := parse_eq_ok.mp h
  obtain ⟨raw, -, hraw⟩ := (read_reads _ _ _).mp hread
  exact forall_mem_of_forall₂ hraw.methods fun _ _ hmethod => hmethod.fits

/-! ### Sums -/

/-- The code where a variable is visible, as an interval of integers of any size. -/
def Scope.exactRange (scope : Scope) : InlineRange := ⟨scope.start, scope.start + scope.length⟩

/-- The code intervals of the marker variables, as intervals of integers of any size. -/
def exactRanges (scopes : List Scope) : List InlineRange :=
  (scopes.filter fun scope => isInlineMarker scope.name).map Scope.exactRange

theorem Scope.range_eq_exactRange {scope : Scope} (h : scope.EndsInWord) :
    scope.range = scope.exactRange := by
  rw [exactRange, ← stop_range h, range]

/-- **Where words hold all ends, the intervals come out as they should.** -/
theorem inlineRanges_eq_exactRanges {scopes : List Scope} (h : MarkersEndInWord scopes) :
    inlineRanges scopes = exactRanges scopes := by
  refine List.map_congr_left fun scope hscope => Scope.range_eq_exactRange ?_
  obtain ⟨hmem, hmarker⟩ := List.mem_filter.mp hscope
  exact h scope hmem (List.isPrefixOf_iff_prefix.mp hmarker)

/-- The sum of two numbers of two bytes does not overflow. -/
theorem VariableRow.Fits.endsInWord {row : VariableRow} (h : row.Fits) :
    row.scope.EndsInWord := by
  obtain ⟨hstart0, hstart1⟩ := h.start
  obtain ⟨hlength0, hlength1⟩ := h.length
  constructor
  · change -0x8000000000000000 ≤ row.start + row.length
    omega
  · change row.start + row.length ≤ 0x7FFFFFFFFFFFFFFF
    omega

theorem markersEndInWord_of_fits {rows : List VariableRow} (h : ∀ row ∈ rows, row.Fits) :
    MarkersEndInWord (rows.map VariableRow.scope) := by
  intro scope hscope _
  obtain ⟨row, hrow, rfl⟩ := List.mem_map.mp hscope
  exact (h row hrow).endsInWord

/-- An interval of code locations has its ends in order, and they are not larger than the sum of two
numbers of two bytes. -/
def InlineRange.Bounded (range : InlineRange) : Prop :=
  0 ≤ range.start ∧ range.start ≤ range.stop ∧ range.stop ≤ 131070

theorem bounded_of_mem_inlineRanges {rows : List VariableRow} (h : ∀ row ∈ rows, row.Fits)
    {range : InlineRange} (hrange : range ∈ inlineRanges (rows.map VariableRow.scope)) :
    range.Bounded := by
  rw [inlineRanges_eq_exactRanges (markersEndInWord_of_fits h)] at hrange
  obtain ⟨scope, hscope, rfl⟩ := List.mem_map.mp hrange
  obtain ⟨row, hrow, rfl⟩ := List.mem_map.mp (List.mem_of_mem_filter hscope)
  obtain ⟨hstart0, hstart1⟩ := (h row hrow).start
  obtain ⟨hlength0, hlength1⟩ := (h row hrow).length
  refine ⟨hstart0, ?_, ?_⟩
  · change row.start ≤ row.start + row.length
    omega
  · change row.start + row.length ≤ 131070
    omega

/-- What is said of the numbers of a method, and of what is computed from them. -/
structure MethodInfo.Bounded (info : MethodInfo) : Prop extends info.Fits where
  /-- No end of a scope overflows. -/
  noOverflow : ∀ rows, info.locals = some rows → ∀ row ∈ rows, row.scope.EndsInWord
  /-- So the intervals that are computed are those of the scopes. -/
  exact : ∀ rows, info.locals = some rows →
    inlineRanges (rows.map VariableRow.scope) = exactRanges (rows.map VariableRow.scope)
  /-- The intervals of the markers have their ends in order. -/
  ranges : ∀ rows, info.locals = some rows →
    ∀ range ∈ inlineRanges (rows.map VariableRow.scope), range.Bounded

theorem MethodInfo.Fits.bounded {info : MethodInfo} (h : info.Fits) : info.Bounded where
  toFits := h
  noOverflow rows hrows row hrow := (h.locals rows hrows row hrow).endsInWord
  exact rows hrows := inlineRanges_eq_exactRanges (markersEndInWord_of_fits (h.locals rows hrows))
  ranges rows hrows _ hrange := bounded_of_mem_inlineRanges (h.locals rows hrows) hrange

/-! ### Spans -/

/-- The lines are positive and in order, and two bytes hold them. -/
def LineSpan.Bounded (span : LineSpan) : Prop :=
  1 ≤ span.first ∧ span.first ≤ span.last ∧ span.last ≤ 0xFFFF

/-- The lines of a span are lines of rows that have one. -/
theorem bounded_of_analyze {rows : List LineRow} {ranges : List InlineRange} {span : LineSpan}
    (h : ∀ row ∈ rows, row.Fits) (hspan : analyze rows ranges = some span) : span.Bounded := by
  obtain ⟨hpos, hle⟩ := ordered_of_analyze hspan
  obtain ⟨-, hlast⟩ := (isHull_analyze rows ranges).eq_some_iff.mp hspan
  obtain ⟨row, hrow, -, hline⟩ := mem_survivingLines.mp hlast.1
  exact ⟨hpos, hle, hline ▸ (h row hrow).line.2⟩

theorem MethodInfo.Fits.bounded_of_verdict {info : MethodInfo} {span : LineSpan} (h : info.Fits)
    (hverdict : info.verdict = some (.ok span)) : span.Bounded := by
  unfold verdict at hverdict
  split at hverdict
  next => cases hverdict
  next => cases hverdict
  next rows lines _ hlines =>
    obtain ⟨found, hfound, hsame⟩ := Option.map_eq_some_iff.mp hverdict
    cases hsame
    exact bounded_of_analyze (h.lines lines hlines) hfound

/-- The first verdict of an overload is that of a method. -/
theorem ClassFile.bounded_of_findSome? {file : ClassFile} {entry : String} {span : LineSpan}
    (h : ∀ info ∈ file.methods.toList, info.Fits)
    (hspan : (file.overloads entry).findSome? MethodInfo.verdict = some (.ok span)) :
    span.Bounded := by
  obtain ⟨info, hinfo, hverdict⟩ := List.exists_of_findSome?_eq_some hspan
  exact (h info (List.mem_of_mem_filter hinfo)).bounded_of_verdict hverdict

/-! ### Class sets of files -/

namespace ClassSet

/-- The set to which all files are added, one after the other. -/
def ofFiles (files : List Bytes) : ClassSet :=
  (({} : ClassSet).takeAll (files.map Offer.unparsed)).2

/-- A class that is there after an offer was there before, or was offered. -/
theorem mem_take {set : ClassSet} {offer : Offer} {file : ClassFile}
    (h : file ∈ (set.take offer).2.classes) : file ∈ set.classes ∨ offer.file = .ok file := by
  cases hoffer : offer.file with
  | error e =>
    rw [take_of_error hoffer] at h
    exact .inl h
  | ok offered =>
    rw [take_of_ok hoffer] at h
    rcases Array.mem_push.mp h with h | rfl
    · exact .inl h
    · exact .inr rfl

/-- A class that is there after all offers was there before, or was one of them. -/
theorem mem_takeAll {set : ClassSet} {offers : List Offer} {file : ClassFile}
    (h : file ∈ (set.takeAll offers).2.classes) :
    file ∈ set.classes ∨ ∃ offer ∈ offers, offer.file = .ok file := by
  induction offers generalizing set with
  | nil => exact .inl h
  | cons offer offers ih =>
    rcases ih h with hbefore | ⟨other, hother, hfile⟩
    · rcases mem_take hbefore with hbefore | hfile
      · exact .inl hbefore
      · exact .inr ⟨offer, List.mem_cons_self, hfile⟩
    · exact .inr ⟨other, List.mem_cons_of_mem _ hother, hfile⟩

variable {files : List Bytes} {owner : Nat} {file : ClassFile}

/-- The classes were all parsed. -/
theorem exists_parse_of_get? (h : (ofFiles files).get? owner = some file) :
    ∃ bs ∈ files, ClassFile.parse bs = .ok file := by
  rcases mem_takeAll (Array.mem_of_getElem? h) with hempty | ⟨offer, hoffer, hfile⟩
  · exact absurd hempty (Array.not_mem_empty file)
  · obtain ⟨bs, hbs, rfl⟩ := List.mem_map.mp hoffer
    exact ⟨bs, hbs, hfile⟩

theorem fits_of_get? (h : (ofFiles files).get? owner = some file) :
    ∀ info ∈ file.methods.toList, info.Fits := by
  obtain ⟨bs, -, hparse⟩ := exists_parse_of_get? h
  exact ClassFile.fits_of_parse hparse

/-- A span that is found is the first verdict. -/
theorem settled_eq_ok_some_iff {verdict? : Option (Except QueryError LineSpan)} {span : LineSpan} :
    settled verdict? = .ok (some span) ↔ verdict? = some (.ok span) := by
  rcases verdict? with _ | e | found <;> simp [settled, Except.map]

/-- A location has the lines of the first verdict. -/
theorem firstVerdict_of_located {entry : String} {location : Location}
    (h : file.located entry = .ok location) :
    (file.overloads entry).findSome? MethodInfo.verdict =
      some (.ok ⟨location.startLine, location.endLine⟩) := by
  unfold ClassFile.located at h
  split at h
  next => cases h
  next => cases h
  next => cases h
  next span name hfirst _ =>
    cases h
    exact hfirst

theorem bounded_of_select {entry : String} {selection : Selection MethodRef}
    (h : ((ofFiles files).introspector.select entry owner).run.run = .ok (some selection)) :
    selection.span.Bounded := by
  cases hfile : (ofFiles files).get? owner with
  | none =>
    have hout := run_select_of_size_le (Array.getElem?_eq_none_iff.mp hfile) entry
    cases hout.symm.trans h
  | some file =>
    have hselect := run_select_of_get? hfile entry
    rw [h] at hselect
    exact ClassFile.bounded_of_findSome? (fits_of_get? hfile)
      (settled_eq_ok_some_iff.mp hselect.symm)

theorem bounded_of_resolve {entry : String} {location : Location}
    (h : ((ofFiles files).introspector.resolve entry owner).run.run = .ok location) :
    (LineSpan.mk location.startLine location.endLine).Bounded := by
  cases hfile : (ofFiles files).get? owner with
  | none =>
    have hout := run_resolve_of_size_le (Array.getElem?_eq_none_iff.mp hfile) entry
    cases hout.symm.trans h
  | some file =>
    rw [run_resolve_of_get? hfile] at h
    exact ClassFile.bounded_of_findSome? (fits_of_get? hfile) (firstVerdict_of_located h)

end ClassSet

/-- **No number of a class file leads out of its bounds.**  The numbers of its tables fit in two
bytes, the ends of scopes are computed without overflow and stay in order, and the lines that are
told of a class are positive, in order, and fit in two bytes again. -/
theorem numbers_stay_in_bounds :
    (∀ bs file, ClassFile.parse bs = .ok file → ∀ info ∈ file.methods.toList, info.Bounded) ∧
    ∀ (files : List Bytes) (entry : String) (owner : Nat),
      (∀ selection, ((ClassSet.ofFiles files).introspector.select entry owner).run.run =
        .ok (some selection) → selection.span.Bounded) ∧
      ∀ location, ((ClassSet.ofFiles files).introspector.resolve entry owner).run.run =
        .ok location → (LineSpan.mk location.startLine location.endLine).Bounded := by
  refine ⟨?_, fun files entry owner => ⟨?_, ?_⟩⟩
  · exact fun bs file h info hinfo => (ClassFile.fits_of_parse h info hinfo).bounded
  · exact fun selection => ClassSet.bounded_of_select
  · exact fun location => ClassSet.bounded_of_resolve

/-- A method with the greatest numbers that there can be.  Its marker begins at the last location,
so that no scope ends later. -/
def widestMethod : MethodInfo :=
  ⟨1, "invoke", "()V", some [⟨0, 65535⟩, ⟨65535, 1⟩],
    some [⟨"$i$f$x", "I", 65535, 65535, 65535⟩]⟩

/-- A class file with this method. -/
def widestFile : Bytes :=
  [0xCA, 0xFE, 0xBA, 0xBE, 0, 0, 0, 52, 0, 11]
    ++ (["A", "invoke", "()V", "Code", "LineNumberTable", "LocalVariableTable", "$i$f$x", "I",
      "SourceFile"].flatMap fun text => [1, 0, UInt8.ofNat text.length] ++ utf8 text)
    ++ [7, 0, 1, 0, 0, 0, 10, 0, 0, 0, 0, 0, 0]
    -- the method with its code, and the two tables there
    ++ [0, 1, 0, 1, 0, 2, 0, 3, 0, 1, 0, 4, 0, 0, 0, 46, 0, 0, 0, 0, 0, 0, 0, 0, 0, 0, 0, 2]
    ++ [0, 5, 0, 0, 0, 10, 0, 2, 0, 0, 0xFF, 0xFF, 0xFF, 0xFF, 0, 1]
    ++ [0, 6, 0, 0, 0, 12, 0, 1, 0xFF, 0xFF, 0xFF, 0xFF, 0, 7, 0, 8, 0xFF, 0xFF]
    -- the source file, which is named like the class
    ++ [0, 1, 0, 9, 0, 0, 0, 2, 0, 1]

/-- The bounds are reached. -/
theorem numbers_stay_in_bounds_widest :
    ClassFile.parse widestFile = .ok ⟨0, 52, 0, "A", #[widestMethod], some "A"⟩ ∧
    widestMethod.Bounded ∧
    ((ClassSet.ofFiles [widestFile]).introspector.select "invoke" 0).run.run =
      .ok (some ⟨⟨0, 0⟩, ⟨65535, 65535⟩, [⟨65535, 131070⟩]⟩) ∧
    ((ClassSet.ofFiles [widestFile]).introspector.resolve "invoke" 0).run.run =
      .ok ⟨"A", 65535, 65535⟩ ∧
    (LineSpan.mk 65535 65535).Bounded := by
  have hparse : ClassFile.parse widestFile = .ok ⟨0, 52, 0, "A", #[widestMethod], some "A"⟩ := by
    decide +kernel
  have hselect : ((ClassSet.ofFiles [widestFile]).introspector.select "invoke" 0).run.run =
      .ok (some ⟨⟨0, 0⟩, ⟨65535, 65535⟩, [⟨65535, 131070⟩]⟩) := by decide +kernel
  have hresolve : ((ClassSet.ofFiles [widestFile]).introspector.resolve "invoke" 0).run.run =
      .ok ⟨"A", 65535, 65535⟩ := by decide +kernel
  obtain ⟨hmethods, hspans⟩ := numbers_stay_in_bounds
  have hmethod := hmethods _ _ hparse widestMethod (List.mem_singleton.mpr rfl)
  have hspan := (hspans [widestFile] "invoke" 0).1 _ hselect
  exact ⟨hparse, hmethod, hselect, hresolve, hspan⟩

end ClosureSpan
