/-
Settings written to a file and read back.

The writer and the reader meet in the middle: what is written is one line for each
of some settings (`write_eq`), those settings make the configuration out of the
defaults (`foldl_written`), and a line is read by its two sides alone
(`Line.read_line`). So a configuration comes back if every one of its settings is
read from its own line.

All of them are, except for quick items. An item is cut at its first and its last
bar, and an item without a tooltip is written without a bar at its end; if its
phrase holds a bar, what stands after the last one is taken for a tooltip
(`QuickItem.read?_write_iff`).

A configuration that is made by a program may hold any texts. One that no reader returns is
lost for certain, whatever other lines its texts turn into; and what a reader returns
has the form of texts on a line. So what the format can hold is known without following
such texts through the file (`read_write_eq_ok_iff`).
-/
import GridFilter.Proofs.Config.Settings

set_option autoImplicit false

namespace GridFilter

/-! ## Quick items -/

namespace QuickItem

/-- What is written behind the first bar. -/
def writeRest (i : QuickItem) : Text :=
  ' ' :: i.phrase ++ i.tooltip.elim [] (" | ".toList ++ ·)

theorem write_eq (i : QuickItem) : i.write = (i.label ++ [' ']) ++ '|' :: i.writeRest := by
  obtain ⟨label, phrase, tooltip⟩ := i
  cases tooltip <;> simp [write, writeRest]

theorem splitFirst?_write {i : QuickItem} (h : i.Tidy) :
    i.write.splitFirst? '|' = some (i.label ++ [' '], i.writeRest) := by
  refine Text.splitFirst?_eq_some_iff.2 ⟨write_eq i, ?_⟩
  simp [h.label_no_bar]

/-- An item is written on one line that is trimmed. -/
theorem Tidy.isValue_write {i : QuickItem} (h : i.Tidy) : i.write.IsValue := by
  have front := h.label.append (t := " | ".toList) (by decide) h.phrase
  cases e : i.tooltip with
  | none =>
    rw [write, e, List.append_nil]
    exact front
  | some t =>
    rw [write, e, ← List.append_assoc]
    exact front.append (by decide) (h.tooltip t e).1

/-- A text is not what stands in front of a bar in it, trimmed or not. -/
theorem trim_ne_of_bar {phrase front tip : Text} (h : ' ' :: phrase = front ++ '|' :: tip) :
    front.trim ≠ phrase := by
  intro e
  cases front with
  | nil => simp at h
  | cons c front =>
    rw [List.cons_append, List.cons.injEq] at h
    obtain ⟨rfl, h⟩ := h
    have short : phrase.length ≤ front.length := by
      rw [← e, Text.trim_cons_blank (by decide)]
      exact Text.length_trim_le front
    have long := congrArg List.length h
    rw [List.length_append, List.length_cons] at long
    omega

/-- **Which items come back.** An item is read back as it was exactly when it has a
tooltip or its phrase holds no bar. -/
theorem read?_write_iff {i : QuickItem} (h : i.Tidy) :
    read? i.write = some i ↔ (i.tooltip = none → '|' ∉ i.phrase) := by
  have label_trim : (i.label ++ [' ']).trim = i.label := by
    rw [Text.trim_append_blank (by decide), h.label.trim_eq]
  have phrase_trim : Text.trim (' ' :: i.phrase) = i.phrase := by
    rw [Text.trim_cons_blank (by decide), h.phrase.trim_eq]
  rw [read?_eq_some_iff]
  constructor
  · rintro ⟨_, rest, cut, -, ⟨phrase_eq, -⟩, -⟩ no_tip bar
    rw [splitFirst?_write h, Option.some.injEq, Prod.mk.injEq] at cut
    obtain ⟨-, rfl⟩ := cut
    have rest_eq : i.writeRest = ' ' :: i.phrase := by simp [writeRest, no_tip]
    rw [rest_eq] at phrase_eq
    -- The phrase itself is cut at its last bar, and what is left of it is too short.
    cases last : Text.splitLast? '|' (' ' :: i.phrase) with
    | none => exact Text.splitLast?_eq_none_iff.1 last (List.mem_cons_of_mem _ bar)
    | some parts =>
      rw [last] at phrase_eq
      exact trim_ne_of_bar (Text.splitLast?_eq_some_iff.1 last).1 phrase_eq
  · intro hi
    refine ⟨_, _, splitFirst?_write h, ⟨label_trim, h.label.ne_nil⟩, ?_⟩
    cases e : i.tooltip with
    | none =>
      have rest_eq : i.writeRest = ' ' :: i.phrase := by simp [writeRest, e]
      have no_cut : Text.splitLast? '|' i.writeRest = none := by
        rw [rest_eq, Text.splitLast?_eq_none_iff]
        simpa using hi e
      rw [no_cut, rest_eq]
      exact ⟨⟨phrase_trim, h.phrase.ne_nil⟩, rfl⟩
    | some t =>
      obtain ⟨ht, no_bar⟩ := h.tooltip t e
      have last_cut : Text.splitLast? '|' i.writeRest =
          some (' ' :: i.phrase ++ [' '], ' ' :: t) := by
        refine Text.splitLast?_eq_some_iff.2 ⟨by simp [writeRest, e], ?_⟩
        simpa using no_bar
      have tip_trim : Text.trim (' ' :: t) = t := by
        rw [Text.trim_cons_blank (by decide), ht.trim_eq]
      rw [last_cut]
      refine ⟨⟨?_, h.phrase.ne_nil⟩, nonEmpty?_eq_some_iff.2 ⟨tip_trim, ht.ne_nil⟩⟩
      rw [Option.getD_some, Text.trim_append_blank (by decide), phrase_trim]

end QuickItem

namespace Config

/-! ## One line -/

/-- What stands in front of a value keeps to its line. -/
theorem Key.one_line (key : Key) : '\n' ∉ key.name.toList ++ " = ".toList := by
  cases key <;> decide

namespace Setting

/-- The key that a setting is given by. -/
def key : Setting → Key
  | matchMode _ => .matchMode
  | minChars _ => .minChars
  | minRows _ => .minRows
  | ignoreColumns _ => .ignoreColumns
  | ignoreTag _ => .ignoreTag
  | quick _ => .quick

/-- The value that is written for a setting. -/
def value : Setting → Text
  | matchMode m => m.name.toList
  | minChars n | minRows n => Text.ofWord n
  | ignoreColumns ns => Text.join ", ".toList (ns.map Text.ofWord)
  | ignoreTag tag => tag.getD []
  | quick i => i.write

/-- The line that is written for a setting. -/
def line (s : Setting) : Text := s.key.name.toList ++ " = ".toList ++ s.value

/-- The value of a setting is nothing at all or one that can be read back. -/
theorem Tidy.value_cases {s : Setting} (h : s.Tidy) : s.value = [] ∨ s.value.IsValue := by
  cases s with
  | matchMode m => exact .inr (by cases m <;> exact ⟨by decide, by decide, by decide⟩)
  | minChars n | minRows n => exact .inr (Text.isValue_ofWord n)
  | ignoreColumns ns => exact Text.join_ofWord_cases (by decide) ns
  | ignoreTag tag =>
    cases tag with
    | none => exact .inl rfl
    | some t => exact .inr (h t rfl)
  | quick i => exact .inr (QuickItem.Tidy.isValue_write h)

/-- A setting is written on one line, and no carriage return ends it. -/
theorem Tidy.line_ends {s : Setting} (h : s.Tidy) :
    '\n' ∉ s.line ∧ s.line.getLast? ≠ some '\r' := by
  have key_line := s.key.one_line
  rw [line]
  rcases h.value_cases with empty | hv
  · rw [empty, List.append_nil]
    exact ⟨key_line, by cases s.key <;> decide⟩
  · refine ⟨by simpa [hv.one_line] using key_line, ?_⟩
    rw [List.getLast?_append_of_ne_nil _ hv.ne_nil]
    exact hv.getLast?_ne_return

end Setting

namespace Line

/-- A line with an equals sign that is no comment says what its two sides say. -/
theorem read_append_cons {a b : Text} (ha : '=' ∉ a) (no_comment : a.trimStart.head? ≠ some '#') :
    read (a ++ '=' :: b) =
      match Key.ofName? a.trim.asciiLower with
      | none => fault [] (.unknownKey a.trim.asciiLower)
      | some key => readValue key b.trim := by
  have trimmed := Text.trim_append_cons (d := '=') (by decide) a b
  -- The equals sign is no blank, so it stays where it is and the line holds something.
  have no_skip : ¬((a.trimStart ++ '=' :: b.trimEnd).isEmpty ||
      (a.trimStart ++ '=' :: b.trimEnd).head? == some '#') = true := by
    cases front : a.trimStart with
    | nil => simp
    | cons c rest => simpa [front] using no_comment
  have cut : (a.trimStart ++ '=' :: b.trimEnd).splitFirst? '=' = some (a.trimStart, b.trimEnd) :=
    Text.splitFirst?_eq_some_iff.2
      ⟨rfl, fun hc => ha ((Text.trimStart_suffix_self a).subset hc)⟩
  cases known : Key.ofName? a.trim.asciiLower <;>
    simp only [read, trimmed, if_neg no_skip, cut, Text.trim_trimStart, Text.trim_trimEnd, known]

/-- **A line that is written is read by its value.** -/
theorem read_assignment (key : Key) (value : Text) :
    read (key.name.toList ++ " = ".toList ++ value) = readValue key value.trim := by
  have cut : key.name.toList ++ " = ".toList ++ value =
      (key.name.toList ++ [' ']) ++ '=' :: ' ' :: value := by simp
  have name_eq : (Text.trim (key.name.toList ++ [' '])).asciiLower = key.name.toList := by
    cases key <;> decide
  rw [cut, read_append_cons (by cases key <;> decide) (by cases key <;> decide), name_eq,
    Key.ofName?_name, Text.trim_cons_blank (by decide)]

theorem readColumns_map_ofWord (ns : List UInt64) :
    readColumns (ns.map Text.ofWord) = (ns, none) := by
  induction ns with
  | nil => rfl
  | cons n ns ih => simp [readColumns, readNumber, Text.readWord?_ofWord, ih]

/-- A list of columns is read back, whatever blanks follow the commas. -/
theorem readColumns_join {gap : Text} (blank : ∀ b ∈ gap, Text.isBlank b = true)
    (ns : List UInt64) :
    readColumns (((Text.splitAll ',' (Text.join (',' :: gap) (ns.map Text.ofWord))).map
      Text.trim).filter fun t => !t.isEmpty) = (ns, none) := by
  have parts : ∀ p ∈ ns.map Text.ofWord, p.IsValue ∧ ',' ∉ p := by
    intro p hp
    obtain ⟨n, -, rfl⟩ := List.mem_map.1 hp
    exact ⟨Text.isValue_ofWord n, fun hc => absurd (Text.isDigit_of_mem_ofWord hc) (by decide)⟩
  rw [Text.pieces_join_blanks blank parts, readColumns_map_ofWord]

/-- A setting is read from its own line, if its quick item is. -/
theorem read_line {s : Setting} (h : s.Tidy)
    (items : ∀ i, s = .quick i → QuickItem.read? i.write = some i) : read s.line = setting s := by
  have value_trim : s.value.trim = s.value := by
    rcases h.value_cases with empty | hv
    · rw [empty]
      rfl
    · exact hv.trim_eq
  rw [Setting.line, read_assignment, value_trim]
  cases s with
  | matchMode m => simp [Setting.key, Setting.value, readValue, MatchMode.read_name, ofExcept,
      Except.map, Except.mapError]
  | minChars n | minRows n => simp [Setting.key, Setting.value, readValue, readNumber,
      Text.readWord?_ofWord, ofExcept, Except.map]
  | ignoreColumns ns =>
    have blank : ∀ b ∈ [' '], Text.isBlank b = true := List.forall_mem_singleton.2 (by decide)
    have separator : ',' :: [' '] = ", ".toList := by decide
    rw [Setting.key, Setting.value, ← separator, readValue, readColumns_join blank]
  | ignoreTag tag =>
    cases tag with
    | none => rfl
    | some t =>
      rw [Setting.key, Setting.value, readValue, Option.getD_some,
        QuickItem.nonEmpty?_eq_some_iff.2 ⟨rfl, (h t rfl).ne_nil⟩]
  | quick i =>
    rw [Setting.key, Setting.value, readValue, items i rfl]
    rfl

end Line

/-! ## The whole file -/

/-- The settings that are written for a configuration, in order. -/
def written (c : Config) : List Setting :=
  [.matchMode c.matchMode, .minChars c.minChars, .minRows c.minRows] ++
    (if c.ignoreColumns.isEmpty then [] else [.ignoreColumns c.ignoreColumns.toList]) ++
    c.ignoreTag.toList.map (fun t => .ignoreTag (some t)) ++
    c.quickList.map .quick

/-- The lines that are written for some settings. -/
def writeAll (ss : List Setting) : Text := (ss.map Setting.line).flatMap (· ++ ['\n'])

theorem writeAll_append (ss ts : List Setting) :
    writeAll (ss ++ ts) = writeAll ss ++ writeAll ts := by
  simp [writeAll]

/-- A file is one line for each of the settings. -/
theorem write_eq (c : Config) : c.write = writeAll c.written := by
  have column_line : (if c.ignoreColumns.isEmpty then [] else writeLine .ignoreColumns
        (Text.join ", ".toList (c.ignoreColumns.toList.map Text.ofWord))) =
      writeAll (if c.ignoreColumns.isEmpty then [] else
        [.ignoreColumns c.ignoreColumns.toList]) := by
    split <;> simp [writeAll, writeLine, Setting.line, Setting.key, Setting.value]
  have tag_line : c.ignoreTag.elim [] (writeLine .ignoreTag) =
      writeAll (c.ignoreTag.toList.map fun t => .ignoreTag (some t)) := by
    cases c.ignoreTag <;> simp [writeAll, writeLine, Setting.line, Setting.key, Setting.value]
  have quick_lines : (c.quickList.flatMap fun i => writeLine .quick i.write) =
      writeAll (c.quickList.map .quick) := by
    rw [writeAll, List.map_map, List.flatMap_map]
    rfl
  rw [write, column_line, tag_line, quick_lines, written, writeAll_append, writeAll_append,
    writeAll_append]
  simp [writeAll, writeLine, Setting.line, Setting.key, Setting.value]

/-- Every column of a set makes the set again. -/
theorem insertAll_empty (s : ColumnSet) : ColumnSet.empty.insertAll s.toList = s :=
  ColumnSet.ext_mem fun k => by simp [ColumnSet.mem_insertAll, ColumnSet.empty]

theorem foldl_apply_quick (c : Config) (items : List QuickItem) :
    (items.map Setting.quick).foldl apply c = { c with quickList := c.quickList ++ items } := by
  induction items generalizing c with
  | nil => simp
  | cons i items ih => simp [apply, ih]

/-- **The settings that are written make the configuration.** -/
theorem foldl_written (c : Config) : c.written.foldl apply {} = c := by
  have columns_back : (if c.ignoreColumns.isEmpty then [] else
      [Setting.ignoreColumns c.ignoreColumns.toList]).foldl apply
        { matchMode := c.matchMode, minChars := c.minChars, minRows := c.minRows } =
      { matchMode := c.matchMode, minChars := c.minChars, minRows := c.minRows,
        ignoreColumns := c.ignoreColumns } := by
    split
    · rename_i h
      rw [ColumnSet.isEmpty, List.isEmpty_iff] at h
      have none_there : c.ignoreColumns = .empty :=
        ColumnSet.ext_mem fun k => by simp [h, ColumnSet.empty]
      simp [none_there]
    · simp [apply, insertAll_empty]
  rw [written, List.foldl_append, foldl_apply_quick, List.foldl_append, List.foldl_append]
  simp only [List.foldl_cons, List.foldl_nil, apply]
  rw [columns_back]
  obtain ⟨_, _, _, _, tag, _⟩ := c
  cases tag <;> simp [apply]

/-- The settings of a configuration have the form of texts on a line if it has. -/
theorem Tidy.of_mem_written {c : Config} (h : c.Tidy) {s : Setting} (hs : s ∈ c.written) :
    s.Tidy := by
  simp only [written, List.mem_append, List.mem_map, Option.mem_toList] at hs
  rcases hs with ((hs | hs) | ⟨t, ht, rfl⟩) | ⟨i, hi, rfl⟩
  · simp only [List.mem_cons, List.not_mem_nil, or_false] at hs
    rcases hs with rfl | rfl | rfl <;> trivial
  · split at hs
    · simp at hs
    · rw [List.mem_singleton.1 hs]
      trivial
  · intro t' e
    cases e
    exact h.ignoreTag t ht
  · exact h.quickList i hi

/-- What is written is cut into the lines that were written. -/
theorem Tidy.lines_write {c : Config} (h : c.Tidy) :
    c.write.lines = c.written.map Setting.line := by
  rw [write_eq, writeAll, Text.lines_flatMap]
  intro l hl
  obtain ⟨s, hs, rfl⟩ := List.mem_map.1 hl
  exact (h.of_mem_written hs).line_ends

/-- The quick item that a setting lists, if it does. -/
def Setting.quick? : Setting → Option QuickItem
  | quick i => some i
  | _ => none

/-- Quick items are listed in the order of their lines. -/
theorem quickList_foldl_apply (c : Config) (ss : List Setting) :
    (ss.foldl apply c).quickList = c.quickList ++ ss.filterMap Setting.quick? := by
  induction ss generalizing c with
  | nil => simp
  | cons s ss ih => cases s <;> simp [ih, apply, Setting.quick?, List.filterMap_cons]

theorem filterMap_quick?_written (c : Config) :
    c.written.filterMap Setting.quick? = c.quickList := by
  have listed := congrArg quickList (foldl_written c)
  rwa [quickList_foldl_apply, List.nil_append] at listed

/-- The line of a setting lists the item that is read from the one it lists. -/
theorem Setting.Tidy.quick?_read_line {s : Setting} (h : s.Tidy) :
    ((Line.read s.line).setting?).bind quick? = s.quick?.bind fun i => QuickItem.read? i.write := by
  cases s with
  | quick i =>
    show _ = QuickItem.read? i.write
    rw [line, Line.read_assignment, value, (QuickItem.Tidy.isValue_write h).trim_eq, key,
      Line.readValue]
    cases QuickItem.read? i.write <;> rfl
  | _ =>
    rw [Line.read_line h (by simp)]
    rfl

/-- A list is kept by reading its members exactly when every one of them is. -/
theorem filterMap_eq_self_iff {α : Type} {f : α → Option α} {xs : List α} :
    xs.filterMap f = xs ↔ ∀ x ∈ xs, f x = some x := by
  induction xs with
  | nil => simp
  | cons x xs ih =>
    rw [List.filterMap_cons, List.forall_mem_cons, ← ih]
    cases hx : f x with
    | none =>
      simp only [reduceCtorEq, false_and, iff_false]
      intro e
      have short := List.length_filterMap_le f xs
      rw [e, List.length_cons] at short
      omega
    | some y => simp

/-- The items that are listed on the lines that are written. -/
theorem Tidy.quick?_settingsOf {c : Config} (h : c.Tidy) :
    (settingsOf (c.written.map Setting.line)).filterMap Setting.quick? =
      c.quickList.filterMap fun i => QuickItem.read? i.write := by
  calc (settingsOf (c.written.map Setting.line)).filterMap Setting.quick?
      = c.written.filterMap fun s => ((Line.read s.line).setting?).bind Setting.quick? := by
        rw [settingsOf, List.filterMap_map, List.filterMap_filterMap]
        rfl
    _ = c.written.filterMap fun s => s.quick?.bind fun i => QuickItem.read? i.write :=
        List.filterMap_congr fun s hs => (h.of_mem_written hs).quick?_read_line
    _ = c.quickList.filterMap fun i => QuickItem.read? i.write := by
        rw [← List.filterMap_filterMap, filterMap_quick?_written]

/-- **Which configurations come back.** Only quick items can be lost: a configuration
comes back exactly when each of its quick items has a tooltip or a phrase without
bars. -/
theorem Tidy.read_write_iff {c : Config} (h : c.Tidy) :
    read c.write = .ok c ↔ ∀ i ∈ c.quickList, i.tooltip = none → '|' ∉ i.phrase := by
  have items_iff : (∀ i ∈ c.quickList, QuickItem.read? i.write = some i) ↔
      ∀ i ∈ c.quickList, i.tooltip = none → '|' ∉ i.phrase :=
    forall₂_congr fun i hi => QuickItem.read?_write_iff (h.quickList i hi)
  rw [← items_iff, read_eq_ok_iff, h.lines_write]
  constructor
  · rintro ⟨-, made⟩
    -- A lost item could be made up for by nothing: there is one line for each item.
    have listed := congrArg Config.quickList made
    rw [quickList_foldl_apply, List.nil_append, h.quick?_settingsOf] at listed
    exact filterMap_eq_self_iff.1 listed
  · intro items
    have back : ∀ s ∈ c.written, Line.read s.line = .setting s := by
      intro s hs
      refine Line.read_line (h.of_mem_written hs) ?_
      rintro i rfl
      refine items i ?_
      rw [← filterMap_quick?_written]
      exact List.mem_filterMap.2 ⟨_, hs, rfl⟩
    have settings_back : settingsOf (c.written.map Setting.line) = c.written := by
      rw [settingsOf, List.filterMap_map]
      exact filterMap_eq_self_iff.2 fun s hs => by simp [back s hs, Line.setting?]
    refine ⟨fun l hl => ?_, ?_⟩
    · obtain ⟨s, hs, rfl⟩ := List.mem_map.1 hl
      rw [back s hs]
      rfl
    · rw [settings_back, foldl_written]

/-- **What the file format can hold.** A configuration comes back from what is written for
it exactly when all of its texts are values and no bar in them is taken for another: the tag
is a value; a label and a tooltip are values without bars; and a phrase is a value, and has
no bar either where no tooltip follows it. -/
theorem read_write_eq_ok_iff (c : Config) :
    read c.write = .ok c ↔
      (∀ tag, c.ignoreTag = some tag → tag.IsValue) ∧
      ∀ i ∈ c.quickList,
        (i.label.IsValue ∧ '|' ∉ i.label) ∧ i.phrase.IsValue ∧
        ((∃ tip, i.tooltip = some tip ∧ tip.IsValue ∧ '|' ∉ tip) ∨
          (i.tooltip = none ∧ '|' ∉ i.phrase)) := by
  constructor
  · intro back
    -- Whatever its texts were, the configuration is now one that was read.
    have tidy : c.Tidy := tidy_of_read back
    have bars := tidy.read_write_iff.1 back
    refine ⟨tidy.ignoreTag, fun i hi => ?_⟩
    have item : i.Tidy := tidy.quickList i hi
    refine ⟨⟨item.label, item.label_no_bar⟩, item.phrase, ?_⟩
    cases tooltip : i.tooltip with
    | none => exact .inr ⟨rfl, bars i hi tooltip⟩
    | some tip => exact .inl ⟨tip, rfl, item.tooltip tip tooltip⟩
  · rintro ⟨tag, items⟩
    have tidy_item : ∀ i ∈ c.quickList, i.Tidy := by
      intro i hi
      obtain ⟨⟨label, label_no_bar⟩, phrase, tooltip⟩ := items i hi
      refine ⟨label, label_no_bar, phrase, fun t ht => ?_⟩
      rcases tooltip with ⟨tip, htip, form⟩ | ⟨missing, _⟩
      · rw [htip, Option.some.injEq] at ht
        exact ht ▸ form
      · rw [missing] at ht
        cases ht
    have tidy : c.Tidy := ⟨tag, tidy_item⟩
    -- Without a tooltip the phrase is the last part, and no bar in it may look like the end.
    refine tidy.read_write_iff.2 fun i hi missing => ?_
    obtain ⟨_, _, ⟨tip, htip, _⟩ | ⟨_, no_bar⟩⟩ := items i hi
    · rw [htip] at missing
      cases missing
    · exact no_bar

/-- A tag that runs over the end of its line becomes a setting of its own. -/
example :
    let c : Config := { ignoreTag := some "skip\nmin_rows = 0".toList }
    read c.write = .ok { minRows := 0, ignoreTag := some "skip".toList } := by
  rfl

/-- **Which files survive a rewrite.** What was read from a file is read back from
what is written for it exactly when no quick item without a tooltip has a bar in its
phrase. -/
theorem read_write_iff_of_read {t : Text} {c : Config} (h : read t = .ok c) :
    read c.write = .ok c ↔ ∀ i ∈ c.quickList, i.tooltip = none → '|' ∉ i.phrase :=
  (tidy_of_read h).read_write_iff

/-- Alternatives in a phrase survive in front of a tooltip. -/
theorem read_write_iff_of_read_alternatives :
    let c : Config :=
      { ignoreColumns := ColumnSet.empty.insert 3
        quickList := [⟨"Errors".toList, "/^E|^F/".toList, some "error rows".toList⟩] }
    read "ignore_columns = 3, 3\nquick = Errors | /^E|^F/ | error rows\n".toList = .ok c ∧
      (read c.write = .ok c ↔ ∀ i ∈ c.quickList, i.tooltip = none → '|' ∉ i.phrase) := by
  intro c
  have accepted : read "ignore_columns = 3, 3\nquick = Errors | /^E|^F/ | error rows\n".toList =
      .ok c := by rfl
  exact ⟨accepted, read_write_iff_of_read accepted⟩

/-- Without a tooltip they do not: the bar that ends the phrase is not written, and
the last alternative becomes a tooltip. -/
theorem read_write_loses_alternative :
    let c : Config := { quickList := [⟨"L".toList, "a|b".toList, none⟩] }
    read "quick = L | a|b |\n".toList = .ok c ∧
      read c.write = .ok { quickList := [⟨"L".toList, "a".toList, some "b".toList⟩] } ∧
        read c.write ≠ .ok c := by
  intro c
  have accepted : read "quick = L | a|b |\n".toList = .ok c := by rfl
  have text : c.write =
      "match_mode = find_first\nmin_chars = 1\nmin_rows = 8\nquick = L | a|b\n".toList := by
    subst c
    decide
  have back : read c.write =
      .ok { quickList := [⟨"L".toList, "a".toList, some "b".toList⟩] } := by
    rw [text]
    rfl
  refine ⟨accepted, back, fun same => ?_⟩
  have equal := Except.ok.inj (back.symm.trans same)
  exact absurd equal (by decide)

end Config

end GridFilter
