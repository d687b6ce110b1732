import ClosureSpan.Proofs.Options.Items

/-!
# The first fault, or the last values

The items of an option text are gone through in order.  The first malformed one is the error of the
whole text.  If there is none, each option has the last value that is given to it, and its default
if none is given.

What comes of an item does not depend on the items around it.  So a text may be continued behind a
comma: the options of the first part are the defaults of the second.

## Main definitions

* `Fault item e` — a malformed item, and what is wrong with it.
* `FirstFault items e` — the first malformed item.
* `LastValue key items value?` — the last value of a key, if it has any.
* `Options.SetBy base items options` — the options that items set over others.

## Main results

* `Setting.ofItem_eq_error_iff`, `Setting.ofItem_eq_ok_iff` — what comes of an item.
* `Options.settle_eq_error_iff`, `Options.settle_eq_ok_iff` — what comes of a list of items.
* `Options.last_value_wins` — **the first fault is the error, and otherwise the last values win.**
-/

namespace ClosureSpan

variable {item : List Char} {items : List (List Char)} {key value : String}

/-! ### One item -/

/-- The keys of the options. -/
def knownKeys : List String := ["log", "result_class", "entry_method"]

/-- The item is malformed.  A missing sign comes before an empty value, and that before an unknown
key. -/
inductive Fault (item : List Char) : OptionsError → Prop
  /-- It has no equals sign. -/
  | missingValue (h : '=' ∉ item) : Fault item (.missingValue (String.ofList item))
  /-- It has no value. -/
  | emptyValue {key : String} (h : Pairs item key "") : Fault item (.emptyValue key)
  /-- It has a value, but no option has its key. -/
  | unknownKey {key value : String} (h : Pairs item key value) (hvalue : value ≠ "")
    (hkey : key ∉ knownKeys) : Fault item (.unknownKey key)

/-- The item is well formed, and sets this. -/
inductive Sets (item : List Char) : Setting → Prop
  /-- A filter, whose directives are separated by semicolons. -/
  | log {value : String} (h : Pairs item "log" value) (hvalue : value ≠ "") :
    Sets item (.log (substitute ';' ',' value))
  /-- A class, perhaps by its binary name. -/
  | resultClass {value : String} (h : Pairs item "result_class" value) (hvalue : value ≠ "") :
    Sets item (.resultClass (substitute '.' '/' value))
  /-- A method, as it stands. -/
  | entryMethod {value : String} (h : Pairs item "entry_method" value) (hvalue : value ≠ "") :
    Sets item (.entryMethod value)

namespace Setting

theorem ofItem_of_notMem (h : '=' ∉ item) :
    ofItem item = .error (.missingValue (String.ofList item)) := by
  rw [ofItem, keyAndValue_of_notMem h]

/-- What is made of an item depends on its key and its value. -/
theorem ofItem_of_pairs (h : Pairs item key value) :
    ofItem item =
      if value = "" then .error (.emptyValue key)
      else if key = "log" then .ok (.log (substitute ';' ',' value))
      else if key = "result_class" then .ok (.resultClass (substitute '.' '/' value))
      else if key = "entry_method" then .ok (.entryMethod value)
      else .error (.unknownKey key) := by
  obtain ⟨front, back, rfl, hfront, hkey, hvalue⟩ := h
  rw [ofItem, keyAndValue_append hfront]
  dsimp only
  rw [ofList_trim_eq_iff.mpr hkey, ofList_trim_eq_iff.mpr hvalue]

theorem ofItem_of_fault {e : OptionsError} (h : Fault item e) : ofItem item = .error e := by
  cases h with
  | missingValue h => exact ofItem_of_notMem h
  | emptyValue h => rw [ofItem_of_pairs h, if_pos rfl]
  | unknownKey h hvalue hkey =>
    simp only [knownKeys, List.mem_cons, List.not_mem_nil, or_false, not_or] at hkey
    rw [ofItem_of_pairs h, if_neg hvalue, if_neg hkey.1, if_neg hkey.2.1, if_neg hkey.2.2]

theorem ofItem_of_sets {setting : Setting} (h : Sets item setting) :
    ofItem item = .ok setting := by
  cases h with
  | log h hvalue => rw [ofItem_of_pairs h, if_neg hvalue, if_pos rfl]
  | resultClass h hvalue =>
    rw [ofItem_of_pairs h, if_neg hvalue, if_neg (by decide), if_pos rfl]
  | entryMethod h hvalue =>
    rw [ofItem_of_pairs h, if_neg hvalue, if_neg (by decide), if_neg (by decide), if_pos rfl]

/-- An item is malformed in one of three ways, or it sets one of three options. -/
theorem fault_or_sets (item : List Char) : (∃ e, Fault item e) ∨ ∃ setting, Sets item setting := by
  by_cases hsign : '=' ∈ item
  · obtain ⟨key, value, h⟩ := exists_pairs hsign
    by_cases hvalue : value = ""
    · subst hvalue
      exact .inl ⟨_, .emptyValue h⟩
    by_cases hkey : key ∈ knownKeys
    · simp only [knownKeys, List.mem_cons, List.not_mem_nil, or_false] at hkey
      rcases hkey with rfl | rfl | rfl
      · exact .inr ⟨_, .log h hvalue⟩
      · exact .inr ⟨_, .resultClass h hvalue⟩
      · exact .inr ⟨_, .entryMethod h hvalue⟩
    · exact .inl ⟨_, .unknownKey h hvalue hkey⟩
  · exact .inl ⟨_, .missingValue hsign⟩

theorem ofItem_eq_error_iff {e : OptionsError} : ofItem item = .error e ↔ Fault item e := by
  refine ⟨fun h => ?_, ofItem_of_fault⟩
  rcases fault_or_sets item with ⟨e', hfault⟩ | ⟨setting, hsets⟩
  · cases (ofItem_of_fault hfault).symm.trans h
    exact hfault
  · cases (ofItem_of_sets hsets).symm.trans h

theorem ofItem_eq_ok_iff {setting : Setting} : ofItem item = .ok setting ↔ Sets item setting := by
  refine ⟨fun h => ?_, ofItem_of_sets⟩
  rcases fault_or_sets item with ⟨e, hfault⟩ | ⟨setting', hsets⟩
  · cases (ofItem_of_fault hfault).symm.trans h
  · cases (ofItem_of_sets hsets).symm.trans h
    exact hsets

end Setting

/-! ### The first fault -/

/-- The item is well formed. -/
def Sound (item : List Char) : Prop := ∀ e, ¬ Fault item e

theorem Sets.sound {setting : Setting} (h : Sets item setting) : Sound item := by
  intro e hfault
  cases (Setting.ofItem_eq_ok_iff.mpr h).symm.trans (Setting.ofItem_eq_error_iff.mpr hfault)

/-- The first malformed item has this fault. -/
def FirstFault (items : List (List Char)) (e : OptionsError) : Prop :=
  ∃ before item after, items = before ++ item :: after ∧ (∀ other ∈ before, Sound other) ∧
    Fault item e

namespace FirstFault

variable {e : OptionsError}

theorem not_sound (h : FirstFault items e) : ¬ ∀ item ∈ items, Sound item := by
  obtain ⟨before, item, after, rfl, -, hfault⟩ := h
  exact fun hsound => hsound item (by simp) e hfault

theorem cons_iff_of_fault {e' : OptionsError} (h : Fault item e) :
    FirstFault (item :: items) e' ↔ e' = e := by
  constructor
  · rintro ⟨before, other, after, hsplit, hsound, hfault⟩
    cases before with
    | nil =>
      cases hsplit
      have hsame := Setting.ofItem_eq_error_iff.mpr hfault
      exact Except.error.inj (hsame.symm.trans (Setting.ofItem_eq_error_iff.mpr h))
    | cons first before =>
      cases hsplit
      exact absurd h (hsound item List.mem_cons_self e)
  · rintro rfl
    exact ⟨[], item, items, rfl, nofun, h⟩

theorem cons_iff_of_sound (h : Sound item) :
    FirstFault (item :: items) e ↔ FirstFault items e := by
  constructor
  · rintro ⟨before, other, after, hsplit, hsound, hfault⟩
    cases before with
    | nil =>
      cases hsplit
      exact absurd hfault (h e)
    | cons first before =>
      cases hsplit
      exact ⟨before, other, after, rfl, fun x hx => hsound x (List.mem_cons_of_mem _ hx), hfault⟩
  · rintro ⟨before, other, after, rfl, hsound, hfault⟩
    exact ⟨item :: before, other, after, rfl, List.forall_mem_cons.mpr ⟨h, hsound⟩, hfault⟩

end FirstFault

/-! ### The last values -/

/-- The last value that an item gives to the key, if any does. -/
def LastValue (key : String) (items : List (List Char)) : Option String → Prop
  | none => ∀ item ∈ items, ∀ value, ¬ Pairs item key value
  | some value => ∃ before item after, items = before ++ item :: after ∧ Pairs item key value ∧
      ∀ other ∈ after, ∀ later, ¬ Pairs other key later

namespace LastValue

variable {value? : Option String}

theorem nil : LastValue key [] none := nofun

/-- An item of the key counts if no later one does. -/
theorem cons_of_pairs (hitem : Pairs item key value) (h : LastValue key items value?) :
    LastValue key (item :: items) (value?.or (some value)) := by
  cases value? with
  | none => exact ⟨[], item, items, rfl, hitem, h⟩
  | some last =>
    obtain ⟨before, other, after, rfl, hother, hafter⟩ := h
    exact ⟨item :: before, other, after, rfl, hother, hafter⟩

/-- An item of another key does not count. -/
theorem cons_of_not_pairs (hitem : ∀ value, ¬ Pairs item key value)
    (h : LastValue key items value?) : LastValue key (item :: items) value? := by
  cases value? with
  | none => exact List.forall_mem_cons.mpr ⟨hitem, h⟩
  | some last =>
    obtain ⟨before, other, after, rfl, hother, hafter⟩ := h
    exact ⟨item :: before, other, after, rfl, hother, hafter⟩

/-- No item of the key stands behind the last one. -/
theorem eq_of_behind {item' : List Char} {between after after' : List (List Char)}
    {value' : String} (hitem : Pairs item key value) (hitem' : Pairs item' key value')
    (hafter : ∀ other ∈ after, ∀ later, ¬ Pairs other key later)
    (hsplit : item :: after = between ++ item' :: after') : value' = value := by
  cases between with
  | nil =>
    cases hsplit
    exact (hitem.unique hitem').2
  | cons first between =>
    cases hsplit
    exact absurd hitem' (hafter item' (by simp) value')

theorem value_eq {value' : String} (h : LastValue key items (some value))
    (h' : LastValue key items (some value')) : value' = value := by
  obtain ⟨before, item, after, rfl, hitem, hafter⟩ := h
  obtain ⟨before', item', after', hsplit, hitem', hafter'⟩ := h'
  -- of two different items one would stand behind the other
  rcases List.append_eq_append_iff.mp hsplit with ⟨between, -, hsplit⟩ | ⟨between, -, hsplit⟩
  · exact eq_of_behind hitem hitem' hafter hsplit
  · exact (eq_of_behind hitem' hitem hafter' hsplit).symm

/-- A key has one last value at most. -/
theorem unique {other? : Option String} (h : LastValue key items value?)
    (h' : LastValue key items other?) : other? = value? := by
  have hnone : ∀ value, LastValue key items none → ¬ LastValue key items (some value) := by
    rintro value hnone ⟨before, item, after, rfl, hitem, -⟩
    exact hnone item (by simp) value hitem
  cases value? with
  | none =>
    cases other? with
    | none => rfl
    | some other => exact absurd h' (hnone other h)
  | some value =>
    cases other? with
    | none => exact absurd h (hnone value h')
    | some other => rw [value_eq h h']

end LastValue

/-- What the last value of the key is read as; the default, if the key has no value. -/
def LastOr {α : Type} (key : String) (read : String → α) (default : α)
    (items : List (List Char)) (result : α) : Prop :=
  ∃ value?, LastValue key items value? ∧ result = (value?.map read).getD default

namespace LastOr

variable {α : Type} {read : String → α} {default result : α}

theorem nil : LastOr key read default [] default := ⟨none, LastValue.nil, rfl⟩

/-- An earlier value is the default for the later items. -/
theorem cons_of_pairs (hitem : Pairs item key value)
    (h : LastOr key read (read value) items result) :
    LastOr key read default (item :: items) result := by
  obtain ⟨value?, hvalue, rfl⟩ := h
  refine ⟨_, hvalue.cons_of_pairs hitem, ?_⟩
  cases value? <;> rfl

theorem cons_of_ne {other : String} (hitem : Pairs item other value) (hne : key ≠ other)
    (h : LastOr key read default items result) :
    LastOr key read default (item :: items) result := by
  obtain ⟨value?, hvalue, hresult⟩ := h
  exact ⟨value?, hvalue.cons_of_not_pairs (hitem.not_of_ne hne), hresult⟩

theorem unique {other : α} (h : LastOr key read default items result)
    (h' : LastOr key read default items other) : other = result := by
  obtain ⟨value?, hvalue, rfl⟩ := h
  obtain ⟨other?, hother, rfl⟩ := h'
  rw [hvalue.unique hother]

/-- What holds of the default and of all values that are read holds of the result. -/
theorem forall_of_sound {P : α → Prop} (h : LastOr key read default items result)
    (hsound : ∀ item ∈ items, Sound item) (hdefault : P default)
    (hread : ∀ value, value ≠ "" → P (read value)) : P result := by
  obtain ⟨value?, hvalue, rfl⟩ := h
  cases value? with
  | none => exact hdefault
  | some value =>
    obtain ⟨before, item, after, rfl, hitem, -⟩ := hvalue
    refine hread value ?_
    rintro rfl
    exact hsound item (by simp) _ (.emptyValue hitem)

end LastOr

namespace Options

variable {base options : Options}

/-- The options that well-formed items set over others. -/
structure SetBy (base : Options) (items : List (List Char)) (options : Options) : Prop where
  /-- The parts of a filter are separated by commas instead of semicolons. -/
  log : LastOr "log" (fun value => some (substitute ';' ',' value)) base.log items options.log
  /-- The name of a class is internal, with slashes instead of dots. -/
  resultClass : LastOr "result_class" (substitute '.' '/') base.resultClass items
    options.resultClass
  /-- The name of a method is as it stands. -/
  entryMethod : LastOr "entry_method" id base.entryMethod items options.entryMethod

namespace SetBy

theorem nil : SetBy base [] base := ⟨.nil, .nil, .nil⟩

/-- The first item sets its option, and the others go on from there. -/
theorem cons {setting : Setting} (hitem : Sets item setting)
    (h : SetBy (base.apply setting) items options) : SetBy base (item :: items) options := by
  cases hitem with
  | log hitem =>
    exact ⟨h.log.cons_of_pairs hitem, h.resultClass.cons_of_ne hitem (by decide),
      h.entryMethod.cons_of_ne hitem (by decide)⟩
  | resultClass hitem =>
    exact ⟨h.log.cons_of_ne hitem (by decide), h.resultClass.cons_of_pairs hitem,
      h.entryMethod.cons_of_ne hitem (by decide)⟩
  | entryMethod hitem =>
    exact ⟨h.log.cons_of_ne hitem (by decide), h.resultClass.cons_of_ne hitem (by decide),
      h.entryMethod.cons_of_pairs hitem⟩

theorem unique {other : Options} (h : SetBy base items options) (h' : SetBy base items other) :
    other = options := by
  obtain ⟨log, resultClass, entryMethod⟩ := options
  obtain ⟨log', resultClass', entryMethod'⟩ := other
  obtain rfl : log' = log := h.log.unique h'.log
  obtain rfl : resultClass' = resultClass := h.resultClass.unique h'.resultClass
  obtain rfl : entryMethod' = entryMethod := h.entryMethod.unique h'.entryMethod
  rfl

end SetBy

/-! ### What comes of a list of items -/

/-- The options that items set over others, or the first fault. -/
def settle (base : Options) (items : List (List Char)) : Except OptionsError Options :=
  (fun settings => settings.foldl apply base) <$> items.mapM Setting.ofItem

theorem settle_cons_of_fault {e : OptionsError} (h : Fault item e) :
    settle base (item :: items) = .error e := by
  rw [settle, List.mapM_cons, Setting.ofItem_eq_error_iff.mpr h]
  rfl

theorem settle_cons_of_sets {setting : Setting} (h : Sets item setting) :
    settle base (item :: items) = settle (base.apply setting) items := by
  rw [settle, settle, List.mapM_cons, Setting.ofItem_eq_ok_iff.mpr h]
  change (fun settings => settings.foldl apply base) <$>
    (items.mapM Setting.ofItem >>= fun settings => pure (setting :: settings)) = _
  cases items.mapM Setting.ofItem <;> rfl

/-- The items behind go on from the options that those in front set. -/
theorem settle_append (base : Options) (front back : List (List Char)) :
    settle base (front ++ back) = settle base front >>= fun options => settle options back := by
  induction front generalizing base with
  | nil => rfl
  | cons item front ih =>
    rw [List.cons_append]
    rcases Setting.fault_or_sets item with ⟨e, h⟩ | ⟨setting, h⟩
    · rw [settle_cons_of_fault h, settle_cons_of_fault h]
      rfl
    · rw [settle_cons_of_sets h, settle_cons_of_sets h, ih]

/-- **The first fault is the error**, whatever was set before. -/
theorem settle_eq_error_iff {e : OptionsError} :
    settle base items = .error e ↔ FirstFault items e := by
  induction items generalizing base with
  | nil =>
    constructor
    · intro h
      cases h
    · intro h
      exact absurd nofun h.not_sound
  | cons item items ih =>
    rcases Setting.fault_or_sets item with ⟨e', h⟩ | ⟨setting, h⟩
    · rw [settle_cons_of_fault h, FirstFault.cons_iff_of_fault h, Except.error.injEq, eq_comm]
    · rw [settle_cons_of_sets h, FirstFault.cons_iff_of_sound h.sound, ih]

/-- Well-formed items set their last values. -/
theorem exists_settle (h : ∀ item ∈ items, Sound item) (base : Options) :
    ∃ options, settle base items = .ok options ∧ SetBy base items options := by
  induction items generalizing base with
  | nil => exact ⟨base, rfl, .nil⟩
  | cons item items ih =>
    obtain ⟨hitem, hitems⟩ := List.forall_mem_cons.mp h
    rcases Setting.fault_or_sets item with ⟨e, hfault⟩ | ⟨setting, hsets⟩
    · exact absurd hfault (hitem e)
    · obtain ⟨options, hoptions, hset⟩ := ih hitems (base.apply setting)
      exact ⟨options, by rw [settle_cons_of_sets hsets, hoptions], hset.cons hsets⟩

theorem sound_of_settle (h : settle base items = .ok options) : ∀ item ∈ items, Sound item := by
  induction items generalizing base with
  | nil => exact nofun
  | cons item items ih =>
    rcases Setting.fault_or_sets item with ⟨e, hfault⟩ | ⟨setting, hsets⟩
    · rw [settle_cons_of_fault hfault] at h
      cases h
    · rw [settle_cons_of_sets hsets] at h
      exact List.forall_mem_cons.mpr ⟨hsets.sound, ih h⟩

/-- **The last values win**, if there is no fault. -/
theorem settle_eq_ok_iff :
    settle base items = .ok options ↔ (∀ item ∈ items, Sound item) ∧ SetBy base items options := by
  constructor
  · intro h
    have hsound := sound_of_settle h
    obtain ⟨other, hother, hset⟩ := exists_settle hsound base
    cases hother.symm.trans h
    exact ⟨hsound, hset⟩
  · rintro ⟨hsound, hset⟩
    obtain ⟨other, hother, hset'⟩ := exists_settle hsound base
    rw [hother, hset.unique hset']

/-! ### Texts -/

/-- No option is empty, a filter has no semicolon, and the name of a class has no dot. -/
structure Clean (options : Options) : Prop where
  log : ∀ directive, options.log = some directive → directive ≠ "" ∧ ';' ∉ directive.toList
  resultClass : options.resultClass ≠ "" ∧ '.' ∉ options.resultClass.toList
  entryMethod : options.entryMethod ≠ ""

end Options

/-- A text stays empty or not, and the old character is gone. -/
theorem substitute_clean {old new : Char} (hne : new ≠ old) (h : value ≠ "") :
    substitute old new value ≠ "" ∧ old ∉ (substitute old new value).toList := by
  unfold substitute
  constructor
  · rw [ne_eq, String.ofList_eq_empty_iff, List.map_eq_nil_iff, String.toList_eq_nil_iff]
    exact h
  · rw [String.toList_ofList]
    intro hmem
    obtain ⟨c, -, hc⟩ := List.mem_map.mp hmem
    split at hc
    next => exact hne hc
    next hold => exact hold hc

namespace Options

variable {options : Options}

theorem SetBy.clean (h : SetBy {} items options) (hsound : ∀ item ∈ items, Sound item) :
    options.Clean where
  log := by
    refine h.log.forall_of_sound (P := fun log => ∀ directive, log = some directive →
      directive ≠ "" ∧ ';' ∉ directive.toList) hsound nofun ?_
    rintro value hvalue _ ⟨⟩
    exact substitute_clean (by decide) hvalue
  resultClass := by
    refine h.resultClass.forall_of_sound (P := fun name => name ≠ "" ∧ '.' ∉ name.toList) hsound
      (by decide +kernel) ?_
    exact fun value hvalue => substitute_clean (by decide) hvalue
  entryMethod := by
    refine h.entryMethod.forall_of_sound (P := fun name => name ≠ "") hsound (by decide) ?_
    exact fun value hvalue => hvalue

theorem parse_eq_settle (text : String) : parse text = settle {} (Options.items text.toList) := rfl

/-- The items of a text behind a comma go on from the options that the text in front sets. -/
theorem parse_append_comma (text more : String) :
    parse (text ++ "," ++ more) =
      parse text >>= fun options => settle options (Options.items more.toList) := by
  have hsplit : (text ++ "," ++ more).toList = text.toList ++ ',' :: more.toList := by
    rw [String.toList_append, String.toList_append, List.append_assoc]
    rfl
  rw [parse_eq_settle, hsplit, items_append_comma, settle_append]
  rfl

/-- Everything that is said of a text of options, in terms of its items. -/
structure LastValueWins (text : String) (items : List (List Char)) : Prop where
  /-- It is rejected for its first fault. -/
  rejected : ∀ e, parse text = .error e ↔ FirstFault items e
  /-- It is accepted if no item is malformed, and sets the last values over the defaults. -/
  accepted : ∀ options, parse text = .ok options ↔
    (∀ item ∈ items, Sound item) ∧ SetBy {} items options
  /-- What is accepted is clean. -/
  clean : ∀ options, parse text = .ok options → options.Clean
  /-- If it is rejected, it is rejected before any other text. -/
  rejected_before : ∀ e, parse text = .error e → ∀ more, parse (text ++ "," ++ more) = .error e
  /-- If it is rejected, it is rejected behind any text that is accepted. -/
  rejected_behind : ∀ e, parse text = .error e → ∀ front options, parse front = .ok options →
    parse (front ++ "," ++ text) = .error e
  /-- If it is accepted, it sets its last values over a text that is accepted. -/
  accepted_behind : ∀ own, parse text = .ok own → ∀ front options, parse front = .ok options →
    ∃ both, parse (front ++ "," ++ text) = .ok both ∧ SetBy options items both

/-- **The first fault is the error, and otherwise the last value of each key wins.**  Whatever the
items of a text are, they decide what becomes of the text, alone and behind another text. -/
theorem last_value_wins (text : String) :
    ∃ items, (∀ other, Itemized text.toList other ↔ other = items) ∧ LastValueWins text items := by
  refine ⟨Options.items text.toList, fun other => itemized_iff, ?_⟩
  constructor
  case rejected => exact fun e => settle_eq_error_iff
  case accepted => exact fun options => settle_eq_ok_iff
  case clean =>
    intro options h
    obtain ⟨hsound, hset⟩ := settle_eq_ok_iff.mp h
    exact hset.clean hsound
  case rejected_before =>
    intro e h more
    rw [parse_append_comma, h]
    rfl
  case rejected_behind =>
    intro e h front options hfront
    rw [parse_append_comma, hfront]
    rw [parse_eq_settle] at h
    exact settle_eq_error_iff.mpr (settle_eq_error_iff.mp h)
  case accepted_behind =>
    intro own h front options hfront
    obtain ⟨hsound, -⟩ := settle_eq_ok_iff.mp h
    obtain ⟨both, hboth, hset⟩ := exists_settle hsound options
    refine ⟨both, ?_, hset⟩
    rw [parse_append_comma, hfront]
    exact hboth

/-- An empty value is found before its key is looked up, and an earlier fault before a later one. -/
example : parse " log=warn;x=off , ,shadow = ,log" = .error (.emptyValue "shadow") := by
  decide +kernel

end Options
end ClosureSpan
