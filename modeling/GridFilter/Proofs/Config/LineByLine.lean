/-
What a settings file means, line by line.

The reader goes through the lines with a configuration that it changes, and stops at the
first line it cannot read. What the file means can be said without either. Whether a line
can be read is a matter of that line alone: read as a file of its own it is accepted or
refused, and refused for the same reason, whatever stands around it. And what an accepted
file says about a key is said by the values that its lines give to that key, in order
(`Line.valuesOf`), and by no others: of a value that is replaced the last one counts,
columns are united, and quick items are listed (`Reflects`). All this is said without the
reader: the words for the keys and the default values are given here once more, and what a
single value means has been said before.

`Reflects` leaves nothing open, so a configuration is what is read from a file exactly if
every line is accepted and every key reflects its values (`read_line_by_line`). The
induction is on the lines from the right, one line being the last word on its key.
-/
import GridFilter.Proofs.Config.Meanings
import Mathlib.Data.List.Forall2

set_option autoImplicit false

namespace GridFilter

namespace Config

/-! ## What a line gives -/

/-- The word for a key. -/
def Key.word : Key → String
  | matchMode => "match_mode"
  | minChars => "min_chars"
  | minRows => "min_rows"
  | ignoreColumns => "ignore_columns"
  | ignoreTag => "ignore_tag"
  | quick => "quick"

/-- The reader knows the keys by their words. -/
theorem Key.ofName?_eq_some_iff {name : Text} {key : Key} :
    ofName? name = some key ↔ name = key.word.toList := by
  have name_eq : key.name = key.word := by cases key <;> rfl
  rw [← name_eq]
  constructor
  · intro h
    have found : all.find? (·.name.toList == name) = some key := h
    have same := List.find?_some found
    exact (eq_of_beq same).symm
  · rintro rfl
    exact ofName?_name key

namespace Line

/-- The line says nothing: it is blank, or it is a comment. -/
def IsSilent (line : Text) : Prop := line.trim = [] ∨ line.trim.head? = some '#'

instance (line : Text) : Decidable (IsSilent line) := inferInstanceAs (Decidable (_ ∨ _))

/-- The value that a line gives to a key, if it does: what stands behind its first equals
sign, when the word for the key stands in front. Outer blanks do not count on either side,
and the case of ASCII letters does not count in the word. -/
def value? (key : Key) (line : Text) : Option Text :=
  if IsSilent line then none
  else (line.trim.splitFirst? '=').bind fun (name, value) =>
    if name.trim.asciiLower = key.word.toList then some value.trim else none

/-- The values that some lines give to a key, in order. -/
def valuesOf (key : Key) (ls : List Text) : List Text := ls.filterMap (value? key)

variable {line : Text} {key : Key} {value : Text}

theorem isSilent_iff :
    (line.trim.isEmpty || line.trim.head? == some '#') = true ↔ IsSilent line := by
  rw [Bool.or_eq_true, List.isEmpty_iff, beq_iff_eq, IsSilent]

theorem value?_of_isSilent (silent : IsSilent line) : value? key line = none := by
  rw [value?, if_pos silent]

theorem value?_eq_some_iff :
    value? key line = some value ↔
      ¬ IsSilent line ∧ ∃ before after, line.trim = before ++ '=' :: after ∧ '=' ∉ before ∧
        Text.asciiLower (Text.trim before) = key.word.toList ∧ Text.trim after = value := by
  rw [value?]
  by_cases silent : IsSilent line
  · simp [silent]
  · rw [if_neg silent, Option.bind_eq_some_iff, and_iff_right silent]
    constructor
    · rintro ⟨⟨before, after⟩, cut, named⟩
      obtain ⟨whole, first⟩ := Text.splitFirst?_eq_some_iff.1 cut
      obtain ⟨name_eq, value_eq⟩ := Option.ite_none_right_eq_some.1 named
      exact ⟨before, after, whole, first, name_eq, Option.some.inj value_eq⟩
    · rintro ⟨before, after, whole, first, name_eq, rfl⟩
      exact ⟨(before, after), Text.splitFirst?_eq_some_iff.2 ⟨whole, first⟩, if_pos name_eq⟩

/-- A line gives a value to one key only. -/
theorem value?_eq_none_of_ne {other : Key} (given : value? key line = some value)
    (ne : other ≠ key) : value? other line = none := by
  by_contra h
  obtain ⟨value', given'⟩ := Option.ne_none_iff_exists'.1 h
  obtain ⟨_, before, after, whole, first, name, _⟩ := value?_eq_some_iff.1 given
  obtain ⟨_, before', after', whole', first', name', _⟩ := value?_eq_some_iff.1 given'
  -- There is one first equals sign, and one name in front of it.
  have cut := Text.splitFirst?_eq_some_iff.2 ⟨whole, first⟩
  have cut' := Text.splitFirst?_eq_some_iff.2 ⟨whole', first'⟩
  rw [cut, Option.some.injEq, Prod.mk.injEq] at cut'
  rw [← cut'.1] at name'
  have same : Key.ofName? before.trim.asciiLower = some key := Key.ofName?_eq_some_iff.2 name
  rw [Key.ofName?_eq_some_iff.2 name', Option.some.injEq] at same
  exact ne same

theorem read_eq_nothing (silent : IsSilent line) : read line = nothing := by
  simp only [read, isSilent_iff.2 silent, if_true]

/-- **A line says nothing, or gives a value to no key and is refused, or is read as the
value that it gives to a key.** -/
theorem read_cases (line : Text) :
    (IsSilent line ∧ read line = nothing) ∨
    ((∀ key, value? key line = none) ∧ ∃ f, read line = fault [] f) ∨
    ∃ key value, value? key line = some value ∧ read line = readValue key value := by
  by_cases silent : IsSilent line
  · exact .inl ⟨silent, read_eq_nothing silent⟩
  · simp only [read, if_neg (mt isSilent_iff.1 silent), value?, if_neg silent]
    cases line.trim.splitFirst? '=' with
    | none => exact .inr (.inl ⟨fun _ => rfl, _, rfl⟩)
    | some parts =>
      obtain ⟨name, value⟩ := parts
      simp only [Option.bind_some]
      cases known : Key.ofName? name.trim.asciiLower with
      | none =>
        refine .inr (.inl ⟨fun key => if_neg fun named => ?_, _, rfl⟩)
        rw [Key.ofName?_eq_some_iff.2 named] at known
        cases known
      | some key =>
        exact .inr (.inr ⟨key, value.trim, if_pos (Key.ofName?_eq_some_iff.1 known), rfl⟩)

/-- A value says something, or is refused. -/
theorem readValue_ne_nothing (key : Key) (value : Text) : readValue key value ≠ nothing := by
  have ofExcept_ne (e : Except LineFault Setting) : ofExcept e ≠ nothing := by
    cases e <;> exact fun h => by cases h
  cases key with
  | matchMode | minChars | minRows | quick => exact ofExcept_ne _
  | ignoreTag => exact fun h => by cases h
  | ignoreColumns =>
    rw [readValue]
    split <;> exact fun h => by cases h

/-- A line that says nothing gives no value. -/
theorem value?_of_read_eq_nothing (h : read line = nothing) : value? key line = none := by
  rcases read_cases line with ⟨silent, _⟩ | ⟨none_given, _⟩ | ⟨key', value, _, reads⟩
  · exact value?_of_isSilent silent
  · exact none_given key
  · exact absurd (reads.symm.trans h) (readValue_ne_nothing key' value)

/-- A setting is read from the value that the line gives to a key. -/
theorem exists_value_of_read_eq_setting {s : Setting} (h : read line = setting s) :
    ∃ key value, value? key line = some value ∧ readValue key value = setting s := by
  rcases read_cases line with ⟨_, quiet⟩ | ⟨_, f, refused⟩ | ⟨key, value, given, reads⟩
  · rw [quiet] at h
    cases h
  · rw [refused] at h
    cases h
  · exact ⟨key, value, given, reads.symm.trans h⟩

/-! ## What a value means -/

/-- The columns that a value names are those of its parts between commas. -/
def NamesColumn (value : Text) (n : UInt64) : Prop :=
  ∃ part ∈ value.splitAll ',', part.trim.IsNumber n

/-- The setting that a value of a key means. -/
inductive Means : Key → Text → Setting → Prop where
  | matchMode {value : Text} {m : MatchMode} (h : m.NamedBy value) :
      Means .matchMode value (.matchMode m)
  | minChars {value : Text} {n : UInt64} (h : value.IsNumber n) :
      Means .minChars value (.minChars n)
  | minRows {value : Text} {n : UInt64} (h : value.IsNumber n) :
      Means .minRows value (.minRows n)
  | ignoreColumns {value : Text} {ns : List UInt64} (h : ∀ n, n ∈ ns ↔ NamesColumn value n) :
      Means .ignoreColumns value (.ignoreColumns ns)
  | ignoreTag {value : Text} {tag : Option Text} (h : value.MeansTag tag) :
      Means .ignoreTag value (.ignoreTag tag)
  | quick {value : Text} {i : QuickItem} (h : i.ListedBy value) :
      Means .quick value (.quick i)

theorem readNumber_eq_ok_iff {n : UInt64} :
    readNumber key value = .ok n ↔ value.IsNumber n := by
  rw [← Text.readWord?_eq_some_iff, readNumber]
  cases value.readWord? <;> simp

/-- Columns that are read without a fault are the numbers that stand there. -/
theorem mem_of_readColumns {parts : List Text} {ns : List UInt64}
    (h : readColumns parts = (ns, none)) (n : UInt64) :
    n ∈ ns ↔ ∃ part ∈ parts, part.IsNumber n := by
  induction parts generalizing ns with
  | nil =>
    cases h
    simp
  | cons part rest ih =>
    rw [readColumns] at h
    cases first : readNumber .ignoreColumns part with
    | error f =>
      rw [first] at h
      cases h
    | ok k =>
      rw [first] at h
      obtain ⟨rfl, no_fault⟩ := Prod.mk.inj h
      have later : readColumns rest = ((readColumns rest).1, none) :=
        Prod.ext rfl no_fault
      rw [List.mem_cons, ih later, List.exists_mem_cons_iff,
        (readNumber_eq_ok_iff.1 first).iff_eq]

/-- An empty part names no column, so it does not matter that such parts are passed over. -/
theorem mem_iff_namesColumn {ns : List UInt64}
    (h : readColumns (((value.splitAll ',').map Text.trim).filter fun t => !t.isEmpty) =
      (ns, none)) (n : UInt64) : n ∈ ns ↔ NamesColumn value n := by
  rw [mem_of_readColumns h, NamesColumn]
  constructor
  · rintro ⟨part, hpart, number⟩
    obtain ⟨raw, hraw, rfl⟩ := List.mem_map.1 (List.mem_filter.1 hpart).1
    exact ⟨raw, hraw, number⟩
  · rintro ⟨raw, hraw, number⟩
    have there : (!raw.trim.isEmpty) = true := by
      rw [List.isEmpty_eq_false_iff.2 number.ne_nil]
      rfl
    exact ⟨raw.trim, List.mem_filter.2 ⟨List.mem_map_of_mem hraw, there⟩, number⟩

private theorem mapError_eq_ok_iff {ε ε' α : Type} {f : ε → ε'} {e : Except ε α} {a : α} :
    e.mapError f = .ok a ↔ e = .ok a := by
  cases e <;> simp [Except.mapError]

/-- **A value that is read without a fault is read as what it means.** -/
theorem means_of_readValue {s : Setting} (h : readValue key value = setting s) :
    Means key value s := by
  cases key with
  | matchMode =>
    obtain ⟨m, accepted, rfl⟩ := ofExcept_map_eq_setting_iff.1 h
    exact .matchMode (MatchMode.read_eq_ok_iff.1 (mapError_eq_ok_iff.1 accepted))
  | minChars =>
    obtain ⟨n, accepted, rfl⟩ := ofExcept_map_eq_setting_iff.1 h
    exact .minChars (readNumber_eq_ok_iff.1 accepted)
  | minRows =>
    obtain ⟨n, accepted, rfl⟩ := ofExcept_map_eq_setting_iff.1 h
    exact .minRows (readNumber_eq_ok_iff.1 accepted)
  | ignoreColumns =>
    obtain ⟨ns, accepted, rfl⟩ := readValue_ignoreColumns_eq_setting_iff.1 h
    exact .ignoreColumns (mem_iff_namesColumn accepted)
  | ignoreTag =>
    cases h
    exact .ignoreTag (QuickItem.nonEmpty?_eq value)
  | quick =>
    obtain ⟨i, item, rfl⟩ := readValue_quick_eq_setting_iff.1 h
    exact .quick (QuickItem.read?_eq_some_iff_listedBy.1 item)

/-- The value can be given to the key. -/
def Allowed (value : Text) : Key → Prop
  | .matchMode => ∃ m : MatchMode, m.NamedBy value
  | .minChars | .minRows => ∃ n, value.IsNumber n
  -- Blanks between commas are passed over.
  | .ignoreColumns => ∀ part ∈ value.splitAll ',', part.trim ≠ [] → ∃ n, part.trim.IsNumber n
  | .ignoreTag => True
  | .quick => ∃ i : QuickItem, i.ListedBy value

theorem exists_readColumns_iff {parts : List Text} :
    (∃ ns, readColumns parts = (ns, none)) ↔ ∀ part ∈ parts, ∃ n, part.IsNumber n := by
  induction parts with
  | nil => simp [readColumns]
  | cons part rest ih =>
    rw [readColumns, List.forall_mem_cons, ← ih]
    cases first : readNumber .ignoreColumns part with
    | error f =>
      have no_number : ¬ ∃ n, part.IsNumber n := by
        rintro ⟨n, number⟩
        rw [readNumber_eq_ok_iff.2 number] at first
        cases first
      simp [no_number]
    | ok n =>
      have number : ∃ n, part.IsNumber n := ⟨n, readNumber_eq_ok_iff.1 first⟩
      simp [number, Prod.ext_iff]

/-- A value is read without a fault if it can be given to its key. -/
theorem exists_readValue_iff : (∃ s, readValue key value = setting s) ↔ Allowed value key := by
  -- What was read is always made into a setting.
  have settled {α : Type} (P : α → Prop) (f : α → Setting) :
      (∃ s a, P a ∧ f a = s) ↔ ∃ a, P a :=
    ⟨fun ⟨_, a, h, _⟩ => ⟨a, h⟩, fun ⟨a, h⟩ => ⟨f a, a, h, rfl⟩⟩
  cases key with
  | matchMode =>
    refine (exists_congr fun s => ofExcept_map_eq_setting_iff).trans ((settled _ _).trans ?_)
    exact exists_congr fun m => mapError_eq_ok_iff.trans MatchMode.read_eq_ok_iff
  | minChars | minRows =>
    refine (exists_congr fun s => ofExcept_map_eq_setting_iff).trans ((settled _ _).trans ?_)
    exact exists_congr fun n => readNumber_eq_ok_iff
  | ignoreColumns =>
    refine (exists_congr fun s => readValue_ignoreColumns_eq_setting_iff).trans
      ((settled _ _).trans (exists_readColumns_iff.trans ?_))
    simp [Allowed]
  | ignoreTag => exact iff_of_true ⟨_, rfl⟩ trivial
  | quick =>
    refine (exists_congr fun s => readValue_quick_eq_setting_iff).trans ((settled _ _).trans ?_)
    exact exists_congr fun i => QuickItem.read?_eq_some_iff_listedBy

/-- A line that says something is read without a fault if it gives a value to a key that can be
given to it. -/
theorem isFault_eq_false_iff (spoken : ¬ IsSilent line) :
    (read line).isFault = false ↔ ∃ key value, value? key line = some value ∧ Allowed value key := by
  have unfaulted_iff (l : Line) (ne : l ≠ nothing) : l.isFault = false ↔ ∃ s, l = setting s := by
    cases l with
    | nothing => exact absurd rfl ne
    | setting s => exact iff_of_true rfl ⟨s, rfl⟩
    | fault columns f => exact iff_of_false (by simp [isFault]) (by simp)
  rcases read_cases line with ⟨silent, _⟩ | ⟨none_given, f, refused⟩ | ⟨key, value, given, reads⟩
  · exact absurd silent spoken
  · rw [refused]
    refine iff_of_false (by simp [isFault]) ?_
    rintro ⟨key, value, given, _⟩
    rw [none_given] at given
    cases given
  · rw [reads, unfaulted_iff _ (readValue_ne_nothing key value), exists_readValue_iff]
    constructor
    · exact fun allowed => ⟨key, value, given, allowed⟩
    · rintro ⟨key', value', given', allowed⟩
      obtain rfl : key' = key := by
        by_contra ne
        rw [value?_eq_none_of_ne given ne] at given'
        cases given'
      rw [given] at given'
      cases given'
      exact allowed

end Line

/-! ## What the values of a key say together -/

/-- The last of the values means `a`; without values, `a` is the default. -/
def LastWins {α : Type} (means : Text → α → Prop) (default : α) (values : List Text) (a : α) :
    Prop :=
  match values.getLast? with
  | none => a = default
  | some value => means value a

theorem lastWins_append_singleton {α : Type} {means : Text → α → Prop} {default a : α}
    {values : List Text} {value : Text} :
    LastWins means default (values ++ [value]) a ↔ means value a := by
  rw [LastWins, List.getLast?_concat]

theorem LastWins.unique {α : Type} {means : Text → α → Prop} {default a b : α}
    {values : List Text} (one_meaning : ∀ value, means value a → means value b → a = b)
    (ha : LastWins means default values a) (hb : LastWins means default values b) : a = b := by
  unfold LastWins at ha hb
  cases last : values.getLast? with
  | none =>
    rw [last] at ha hb
    exact Eq.trans ha hb.symm
  | some value =>
    rw [last] at ha hb
    exact one_meaning value ha hb

/-- What the configuration says about a key is what the values that were given to it say:
of the single values the last, of the columns all, and the quick items in order. -/
def Reflects (c : Config) : Key → List Text → Prop
  | .matchMode, values => LastWins (fun value m => m.NamedBy value) .findFirst values c.matchMode
  | .minChars, values => LastWins Text.IsNumber 1 values c.minChars
  | .minRows, values => LastWins Text.IsNumber 8 values c.minRows
  | .ignoreColumns, values =>
    ∀ n, n ∈ c.ignoreColumns.toList ↔ ∃ value ∈ values, Line.NamesColumn value n
  -- A value that is empty takes the tag back, and is the last word like any other.
  | .ignoreTag, values => LastWins Text.MeansTag none values c.ignoreTag
  | .quick, values => List.Forall₂ (fun value i => i.ListedBy value) values c.quickList

/-- Without values everything is as it is by default. -/
theorem reflects_default (key : Key) : ({} : Config).Reflects key [] := by
  cases key with
  | ignoreColumns => simp [Reflects, ColumnSet.empty]
  | quick => exact .nil
  | _ => rfl

/-- **One value more for a key** is the last word, one union or one item more. -/
theorem Reflects.apply_self {c : Config} {key : Key} {values : List Text} {value : Text}
    {s : Setting} (h : c.Reflects key values) (means : Line.Means key value s) :
    (c.apply s).Reflects key (values ++ [value]) := by
  cases means with
  | matchMode meant | minChars meant | minRows meant | ignoreTag meant =>
    exact lastWins_append_singleton.2 meant
  | ignoreColumns named =>
    intro n
    rw [apply, ColumnSet.mem_insertAll, named, h n, or_comm]
    simp only [List.mem_append, List.mem_singleton, or_and_right, exists_or, exists_eq_left]
  | quick item => exact List.rel_append h (.cons item .nil)

/-- A value for one key says nothing about another. -/
theorem reflects_apply_of_ne {c : Config} {key other : Key} {values : List Text} {value : Text}
    {s : Setting} (means : Line.Means key value s) (ne : other ≠ key) :
    (c.apply s).Reflects other values ↔ c.Reflects other values := by
  cases means <;> cases other <;> first | exact Iff.rfl | exact absurd rfl ne

/-- A configuration is known by what it says about its keys. -/
theorem eq_of_reflects {c d : Config} {given : Key → List Text}
    (hc : ∀ key, c.Reflects key (given key)) (hd : ∀ key, d.Reflects key (given key)) : c = d := by
  have columns : c.ignoreColumns = d.ignoreColumns :=
    ColumnSet.ext_mem fun n => (hc .ignoreColumns n).trans (hd .ignoreColumns n).symm
  have one_item : Relator.RightUnique fun (value : Text) (i : QuickItem) => i.ListedBy value :=
    fun _ _ _ => QuickItem.ListedBy.unique
  have items : c.quickList = d.quickList := one_item.forall₂ (hc .quick) (hd .quick)
  rw [Config.mk.injEq]
  exact ⟨(hc .matchMode).unique (fun _ => MatchMode.NamedBy.unique) (hd .matchMode),
    (hc .minChars).unique (fun _ => Text.IsNumber.unique) (hd .minChars),
    (hc .minRows).unique (fun _ => Text.IsNumber.unique) (hd .minRows), columns,
    (hc .ignoreTag).unique (fun _ => Text.MeansTag.unique) (hd .ignoreTag), items⟩

/-! ## All lines -/

private theorem filterMap_append_singleton {α β : Type} (f : α → Option β) (as : List α)
    (a : α) : (as ++ [a]).filterMap f = as.filterMap f ++ (f a).toList := by
  rw [List.filterMap_append]
  cases h : f a <;> simp [h]

theorem settingsOf_append_singleton (ls : List Text) (l : Text) :
    settingsOf (ls ++ [l]) = settingsOf ls ++ (Line.read l).setting?.toList :=
  filterMap_append_singleton _ ls l

theorem Line.valuesOf_append_singleton (key : Key) (ls : List Text) (l : Text) :
    valuesOf key (ls ++ [l]) = valuesOf key ls ++ (value? key l).toList :=
  filterMap_append_singleton _ ls l

/-- **Lines without a fault make a configuration that reflects their values.** -/
theorem reflects_valuesOf {ls : List Text} (accepted : ∀ l ∈ ls, (Line.read l).isFault = false)
    (key : Key) : ((settingsOf ls).foldl apply {}).Reflects key (Line.valuesOf key ls) := by
  induction ls using List.reverseRecOn with
  | nil => exact reflects_default key
  | append_singleton ls l ih =>
    have before := ih fun k hk => accepted k (List.mem_append_left _ hk)
    have last := accepted l (List.mem_append_right _ List.mem_cons_self)
    rw [settingsOf_append_singleton, List.foldl_append, Line.valuesOf_append_singleton]
    cases reads : Line.read l with
    | nothing =>
      rw [Line.value?_of_read_eq_nothing reads, Option.toList_none, List.append_nil]
      exact before
    | fault columns f =>
      rw [reads] at last
      cases last
    | setting s =>
      obtain ⟨given, value, gives, read_value⟩ := Line.exists_value_of_read_eq_setting reads
      have means : Line.Means given value s := Line.means_of_readValue read_value
      by_cases own : key = given
      · subst own
        rw [gives]
        exact before.apply_self means
      · rw [Line.value?_eq_none_of_ne gives own, Option.toList_none, List.append_nil]
        exact (reflects_apply_of_ne means own).2 before

/-- **The first fault is the one that is reported**, with the number of its line. The lines
in front of it are read without a fault; the lines behind it are not looked at. -/
theorem readLines_eq_error_iff {c : Config} {n : Nat} {ls : List Text} {e : Fault} :
    (c.readLines n ls).1 = .error e ↔
      ∃ front l back, ls = front ++ l :: back ∧ (∀ k ∈ front, (Line.read k).isFault = false) ∧
        (∃ columns, Line.read l = .fault columns e.fault) ∧ e.line = n + front.length := by
  induction ls generalizing c n with
  | nil => simp [readLines]
  | cons k ls ih =>
    rw [readLines]
    cases reads : Line.read k with
    | fault columns f =>
      rw [Except.error.injEq]
      constructor
      · rintro rfl
        exact ⟨[], k, ls, rfl, List.forall_mem_nil _, ⟨columns, reads⟩, rfl⟩
      · rintro ⟨front, l, back, whole, clean, ⟨columns', refused⟩, number⟩
        cases front with
        | nil =>
          obtain ⟨rfl, rfl⟩ := List.cons.inj whole
          rw [reads, Line.fault.injEq] at refused
          rw [refused.2, ← Nat.add_zero n]
          exact congrArg (Fault.mk · e.fault) number.symm
        | cons k' front =>
          -- Then the first line is among those without a fault.
          obtain ⟨rfl, _⟩ := List.cons.inj whole
          have first := clean k List.mem_cons_self
          rw [reads] at first
          cases first
    | nothing | setting s =>
      have clean_first : (Line.read k).isFault = false := by rw [reads]; rfl
      refine ih.trans ?_
      constructor
      · rintro ⟨front, l, back, rfl, clean, refused, number⟩
        refine ⟨k :: front, l, back, rfl, List.forall_mem_cons.2 ⟨clean_first, clean⟩, refused, ?_⟩
        rw [number, List.length_cons, Nat.add_right_comm, Nat.add_assoc]
      · rintro ⟨front, l, back, whole, clean, refused, number⟩
        cases front with
        | nil =>
          obtain ⟨rfl, _⟩ := List.cons.inj whole
          obtain ⟨_, refused⟩ := refused
          rw [reads] at refused
          cases refused
        | cons k' front =>
          obtain ⟨rfl, rfl⟩ := List.cons.inj whole
          refine ⟨front, l, back, rfl, (List.forall_mem_cons.1 clean).2, refused, ?_⟩
          rw [number, List.length_cons, Nat.add_right_comm, Nat.add_assoc]

/-! ## One line as a file of its own -/

section Alone

variable {l : Text}

/-- A line on its own is read from the defaults, as line one. -/
theorem read_alone_eq (one_line : '\n' ∉ l) : read l = (readLines {} 1 [l]).1 := by
  rw [read, readWithLog]
  by_cases empty : l = []
  · rw [empty]
    rfl
  · rw [Text.lines_eq_singleton one_line empty]

/-- On its own a line is accepted if it has no fault. -/
theorem exists_read_alone_iff (one_line : '\n' ∉ l) :
    (∃ c, read l = .ok c) ↔ (Line.read l).isFault = false := by
  rw [read_alone_eq one_line]
  constructor
  · rintro ⟨c, accepted⟩
    exact (readLines_eq_ok_iff.1 accepted).1 l List.mem_cons_self
  · intro clean
    exact ⟨_, readLines_eq_ok_iff.2 ⟨fun k hk => List.mem_singleton.1 hk ▸ clean, rfl⟩⟩

/-- On its own a line is refused for its fault. -/
theorem read_alone_eq_error_iff (one_line : '\n' ∉ l) {f : LineFault} :
    read l = .error ⟨1, f⟩ ↔ ∃ columns, Line.read l = .fault columns f := by
  rw [read_alone_eq one_line, readLines_eq_error_iff]
  constructor
  · rintro ⟨front, k, back, whole, _, refused, _⟩
    cases front with
    | nil =>
      obtain ⟨rfl, _⟩ := List.cons.inj whole
      exact refused
    | cons k' front =>
      obtain ⟨_, nothing_left⟩ := List.cons.inj whole
      exact absurd nothing_left.symm (by simp)
  · intro refused
    exact ⟨[], l, [], rfl, List.forall_mem_nil _, refused, rfl⟩

end Alone

/-- A line that says nothing has no fault, so whether all lines have none is a question
about the others. -/
theorem forall_isFault_eq_false_iff {ls : List Text} (one_line : ∀ l ∈ ls, '\n' ∉ l) :
    (∀ l ∈ ls, (Line.read l).isFault = false) ↔
      ∀ l ∈ ls, ¬ Line.IsSilent l → ∃ c, read l = .ok c := by
  refine forall₂_congr fun l hl => ?_
  rw [exists_read_alone_iff (one_line l hl)]
  constructor
  · exact fun clean _ => clean
  · intro clean
    by_cases silent : Line.IsSilent l
    · rw [Line.read_eq_nothing silent]
      rfl
    · exact clean silent

/-- **A settings file is read line by line.** It is accepted if every line that says
something is accepted as a file of its own, which it is if it gives a value to a key that can
be given to this key. It is refused for the first line that is refused on its own, with the
fault that this line has there, at the place where the line stands. And it is read as the one
configuration in which every key reflects the values that its lines give to it. -/
theorem read_line_by_line (t : Text) :
    ((∃ c, read t = .ok c) ↔ ∀ l ∈ t.lines, ¬ Line.IsSilent l → ∃ c, read l = .ok c) ∧
    (∀ l ∈ t.lines, ¬ Line.IsSilent l → ((∃ c, read l = .ok c) ↔
      ∃ key value, Line.value? key l = some value ∧ Line.Allowed value key)) ∧
    (∀ e, read t = .error e ↔
      ∃ front l back, t.lines = front ++ l :: back ∧ (∀ k ∈ front, ∃ c, read k = .ok c) ∧
        read l = .error ⟨1, e.fault⟩ ∧ e.line = front.length + 1) ∧
    (∀ c, read t = .ok c ↔
      (∀ l ∈ t.lines, ¬ Line.IsSilent l → ∃ d, read l = .ok d) ∧
        ∀ key, c.Reflects key (Line.valuesOf key t.lines)) := by
  have one_line : ∀ l ∈ t.lines, '\n' ∉ l := fun l => Text.lineFeed_not_mem_of_mem_lines
  have clean_iff := forall_isFault_eq_false_iff one_line
  refine ⟨?_, fun l hl spoken => ?_, fun e => ?_, fun c => ?_⟩
  · rw [← clean_iff]
    constructor
    · rintro ⟨c, accepted⟩
      exact (read_eq_ok_iff.1 accepted).1
    · exact fun clean => ⟨_, read_eq_ok_iff.2 ⟨clean, rfl⟩⟩
  · rw [exists_read_alone_iff (one_line l hl), Line.isFault_eq_false_iff spoken]
  · refine readLines_eq_error_iff.trans ?_
    refine exists_congr fun front => exists_congr fun l => exists_congr fun back => ?_
    refine and_congr_right fun whole => ?_
    rw [whole] at one_line
    have front_line : ∀ k ∈ front, '\n' ∉ k := fun k hk => one_line k (List.mem_append_left _ hk)
    have l_line : '\n' ∉ l := one_line l (List.mem_append_right _ List.mem_cons_self)
    refine and_congr (forall₂_congr fun k hk => (exists_read_alone_iff (front_line k hk)).symm) ?_
    exact and_congr (read_alone_eq_error_iff l_line).symm (by rw [Nat.add_comm])
  · rw [← clean_iff, read_eq_ok_iff]
    refine and_congr_right fun clean => ?_
    have made := reflects_valuesOf clean
    constructor
    · rintro rfl
      exact made
    · exact eq_of_reflects made

/-- The first fault counts, and the lines in front of it are counted whatever they say. -/
example :
    read "Min_Chars = 2\r\n# hue\n\nmin_chars == 3\nhue = 1".toList =
      .error ⟨4, .notANumber .minChars "= 3".toList⟩ := by
  rfl

end Config

end GridFilter
