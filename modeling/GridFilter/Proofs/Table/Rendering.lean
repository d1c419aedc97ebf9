/-
A table that is written, read again.

Writing and reading do not agree about everything. A row of one empty cell is
written as an empty line, and reading drops empty lines; the blanks around a cell and
a carriage return at the end of a line are dropped as well; a highlighted cell is
written with brackets, which are read as part of its text. What saves the round trip
is that the texts of a table that was read are tidy already (`isTidy_read`): trimmed,
on one line, and without the delimiter. Filtering writes no texts, and brackets leave
a text tidy unless one of them is the delimiter.

So reading gives back the rows that were written but for those of one empty cell
(`read_render`). If a filter was active, each visible row has a highlighted cell, and
there is no such row among them (`read_render_filtered`).
-/
import GridFilter.Proofs.Evaluation.Justified
import GridFilter.Proofs.Session.Runs
import GridFilter.Proofs.Text.Lines
import GridFilter.Table

set_option autoImplicit false

namespace GridFilter

namespace Table

/-! ## Lines of tidy texts -/

/-- A delimiter that is no line ending and none of the brackets around highlights. -/
structure IsDelimiter (d : Char) : Prop where
  ne_feed : d ≠ '\n'
  ne_return : d ≠ '\r'
  ne_opening : d ≠ '['
  ne_closing : d ≠ ']'

/-- A text that can stand between delimiters and be read back. -/
structure IsTidyText (d : Char) (t : Text) : Prop where
  trim_eq : t.trim = t
  undivided : d ∉ t
  one_line : '\n' ∉ t

/-- The texts of a line: at least one, and each can be read back. -/
structure IsTidyLine (d : Char) (texts : List Text) : Prop where
  ne_nil : texts ≠ []
  text : ∀ t ∈ texts, IsTidyText d t

variable {d : Char}

/-- Brackets leave a text tidy. -/
theorem IsTidyText.bracketed {t : Text} (h : IsTidyText d t) (hd : IsDelimiter d) :
    IsTidyText d ('[' :: (t ++ [']'])) where
  trim_eq := by
    refine Text.trim_eq_self_iff.2 ⟨fun c hc => ?_, fun c hc => ?_⟩
    · rw [List.head?_cons, Option.some.injEq] at hc
      exact hc ▸ rfl
    · rw [← List.cons_append, List.getLast?_concat, Option.some.injEq] at hc
      exact hc ▸ rfl
  undivided := by simp [hd.ne_opening, h.undivided, hd.ne_closing]
  one_line := by simp [h.one_line]

namespace IsTidyLine

variable {texts : List Text}

/-- A line is cut into the texts that it was joined from. -/
theorem cellTexts_join (h : IsTidyLine d texts) : cellTexts d (Text.join [d] texts) = texts := by
  have undivided : ∀ t ∈ texts, d ∉ t := fun t ht => (h.text t ht).undivided
  have trimmed : ∀ t ∈ texts, t.trim = id t := fun t ht => (h.text t ht).trim_eq
  rw [cellTexts, Text.splitAll_join undivided h.ne_nil, List.map_congr_left trimmed, List.map_id]

/-- Only the line of one empty text is empty. -/
theorem join_eq_nil_iff (h : IsTidyLine d texts) : Text.join [d] texts = [] ↔ texts = [[]] := by
  constructor
  · intro empty
    rw [← h.cellTexts_join, empty]
    rfl
  · rintro rfl
    rfl

theorem feed_not_mem_join (h : IsTidyLine d texts) (hd : d ≠ '\n') :
    '\n' ∉ Text.join [d] texts :=
  Text.not_mem_join (by simpa using hd.symm) fun t ht => (h.text t ht).one_line

/-- A line ends in its last text, or in the delimiter before an empty one: in no
carriage return that reading would drop. -/
theorem getLast?_join_ne_return (h : IsTidyLine d texts) (hd : d ≠ '\r') :
    (Text.join [d] texts).getLast? ≠ some '\r' := by
  induction texts with
  | nil => exact absurd rfl h.ne_nil
  | cons t rest ih =>
    cases rest with
    | nil =>
      rw [Text.join_singleton]
      intro last
      have trimmed : t.trim = t := (h.text t List.mem_cons_self).trim_eq
      exact absurd ((Text.trim_eq_self_iff.1 trimmed).2 _ last) (by decide)
    | cons u rest =>
      have behind : IsTidyLine d (u :: rest) :=
        ⟨List.cons_ne_nil u rest, fun v hv => h.text v (List.mem_cons_of_mem t hv)⟩
      rw [Text.join_cons_of_ne_nil _ _ behind.ne_nil, List.getLast?_append,
        List.getLast?_concat, Ne, Option.or_eq_some_iff, Option.some.injEq]
      rintro (last | ⟨_, return_delimiter⟩)
      · exact ih behind last
      · exact hd return_delimiter

end IsTidyLine

/-! ## Reading what was written -/

/-- The row that texts are read as when cells are not tagged. -/
def plainRow (texts : List Text) : Row := { cells := texts.map fun t => { text := t } }

section

variable {lines : List (List Text)} (tidy : ∀ texts ∈ lines, IsTidyLine d texts)

include tidy

/-- Each line is written on one line. -/
theorem lines_writeLines (hd : IsDelimiter d) :
    Text.lines (lines.flatMap (writeLine d)) = lines.map (Text.join [d]) := by
  have written : lines.flatMap (writeLine d) = (lines.map (Text.join [d])).flatMap (· ++ ['\n']) := by
    rw [List.flatMap_map]
    rfl
  rw [written]
  refine Text.lines_flatMap fun line mem => ?_
  obtain ⟨texts, h, rfl⟩ := List.mem_map.1 mem
  exact ⟨(tidy texts h).feed_not_mem_join hd.ne_feed,
    (tidy texts h).getLast?_join_ne_return hd.ne_return⟩

/-- The lines that are not empty are those of more than one empty text. -/
theorem filter_map_join :
    (lines.map (Text.join [d])).filter (fun line => !line.isEmpty) =
      (lines.filter (· ≠ [[]])).map (Text.join [d]) := by
  rw [List.filter_map]
  refine congrArg _ (List.filter_congr fun texts h => ?_)
  have empty : (Text.join [d] texts).isEmpty = decide (texts = [[]]) := by
    rw [Bool.eq_iff_iff, List.isEmpty_iff, decide_eq_true_iff, (tidy texts h).join_eq_nil_iff]
  rw [Function.comp_apply, empty, decide_not]

/-- **Lines that are written are read back**, but for those of one empty text. -/
theorem read_writeLines (hd : IsDelimiter d) (header : Bool) :
    let kept := lines.filter (· ≠ [[]])
    read (lines.flatMap (writeLine d)) { delimiter := d, header } =
      if header then { header := kept.head?, grid := ⟨kept.tail.map plainRow⟩ }
      else { header := none, grid := ⟨kept.map plainRow⟩ } := by
  intro kept
  have texts_eq : kept.map (cellTexts d ∘ Text.join [d]) = kept := by
    have same : ∀ texts ∈ kept, (cellTexts d ∘ Text.join [d]) texts = id texts := fun texts h =>
      (tidy texts (List.mem_of_mem_filter h)).cellTexts_join
    rw [List.map_congr_left same, List.map_id]
  have rows_eq : kept.map (readRow { delimiter := d, header } ∘ Text.join [d]) =
      kept.map plainRow := by
    conv_rhs => rw [← texts_eq, List.map_map]
    rfl
  have kept_eq : (lines.map (Text.join [d])).filter (fun line => !line.isEmpty) =
      kept.map (Text.join [d]) := filter_map_join tidy
  -- Reading is a map over the lines that are kept, with or without the first of them.
  cases header with
  | false =>
    simp only [read, lines_writeLines tidy hd, kept_eq, Bool.false_eq_true, if_false,
      List.map_map, rows_eq]
  | true =>
    simp only [read, lines_writeLines tidy hd, kept_eq, if_true, List.map_tail, ← List.head?_map,
      List.map_map, texts_eq, rows_eq]

end

end Table

/-! ## Tables that were read -/

/-- The texts of a row, from left to right. -/
def Row.texts (r : Row) : List Text := r.cells.map (·.text)

namespace Table

variable {d : Char}

/-- A table as reading leaves it. The header is there exactly when the format asks for
one, unless there is no line at all. -/
structure IsTidy (format : TableFormat) (t : Table) : Prop where
  header : ∀ texts, t.header = some texts → IsTidyLine format.delimiter texts
  row : ∀ r ∈ t.grid.rows, IsTidyLine format.delimiter r.texts
  headless : format.header = false → t.header = none
  bodiless : format.header = true → t.header = none → t.grid.rows = []

/-- Trimming makes a part of a line tidy. -/
theorem isTidyText_trim {part : Text} (undivided : d ∉ part) (one_line : '\n' ∉ part) :
    IsTidyText d part.trim where
  trim_eq := Text.trim_trim part
  undivided := fun cut => undivided (Text.mem_of_mem_trim cut)
  one_line := fun feed => one_line (Text.mem_of_mem_trim feed)

/-- The texts that a line is cut into are tidy. -/
theorem isTidyLine_cellTexts {line : Text} (one_line : '\n' ∉ line) :
    IsTidyLine d (cellTexts d line) where
  ne_nil := by
    rw [cellTexts, Ne, List.map_eq_nil_iff]
    exact Text.splitWhere_ne_nil _ line
  text t ht := by
    obtain ⟨part, hpart, rfl⟩ := List.mem_map.1 ht
    refine isTidyText_trim (fun cut => ?_) fun feed => ?_
    · exact absurd (Text.not_of_mem_splitWhere hpart cut) (by simp)
    · exact one_line (Text.mem_of_mem_splitAll hpart feed)

/-- **What counts as a tag**: what stands between an opening brace at the front and the
first closing one, if it is not blank. Tag and text are trimmed. -/
theorem splitTag?_eq_some_iff {raw tag text : Text} :
    splitTag? raw = some (tag, text) ↔
      ∃ before after : Text, raw = '\x7b' :: (before ++ '\x7d' :: after) ∧ '\x7d' ∉ before ∧
        before.trim = tag ∧ after.trim = text ∧ tag ≠ [] := by
  unfold splitTag?
  split
  · rename_i rest
    simp only [Option.filter_eq_some_iff, Option.map_eq_some_iff, Prod.exists, Prod.mk.injEq,
      Text.splitFirst?_eq_some_iff, List.cons.injEq, true_and, Bool.not_eq_true',
      List.isEmpty_eq_false_iff]
    constructor
    · rintro ⟨⟨before, after, ⟨rfl, first⟩, rfl, rfl⟩, there⟩
      exact ⟨before, after, rfl, first, rfl, rfl, there⟩
    · rintro ⟨before, after, rfl, first, rfl, rfl, there⟩
      exact ⟨⟨before, after, ⟨rfl, first⟩, rfl, rfl⟩, there⟩
  · rename_i no_brace
    refine iff_of_false (by simp) ?_
    rintro ⟨before, after, rfl, _⟩
    exact no_brace _ rfl

/-- With its tag or without it, a tidy text is read as one. -/
theorem isTidyText_readCell {raw : Text} (h : IsTidyText d raw) (tagged : Bool) :
    IsTidyText d (readCell tagged raw).text := by
  rw [readCell]
  split
  · rename_i tag text tagged_text
    have cut : splitTag? raw = some (tag, text) := by
      split at tagged_text
      · exact tagged_text
      · exact absurd tagged_text (by simp)
    obtain ⟨before, after, rfl, _, _, rfl, _⟩ := splitTag?_eq_some_iff.1 cut
    have within : ∀ c ∈ after, c ∈ '\x7b' :: (before ++ '\x7d' :: after) := fun c hc =>
      List.mem_cons_of_mem _ (List.mem_append_right _ (List.mem_cons_of_mem _ hc))
    exact isTidyText_trim (fun cut => h.undivided (within _ cut)) fun feed =>
      h.one_line (within _ feed)
  · exact h

/-- **Every table that is read is tidy**, whatever the delimiter. -/
theorem isTidy_read (contents : Text) (format : TableFormat) :
    IsTidy format (read contents format) := by
  have text : ∀ line ∈ contents.lines.filter fun line => !line.isEmpty,
      IsTidyLine format.delimiter (cellTexts format.delimiter line) := fun line h =>
    isTidyLine_cellTexts (Text.lineFeed_not_mem_of_mem_lines (List.mem_of_mem_filter h))
  have row : ∀ line ∈ contents.lines.filter fun line => !line.isEmpty,
      IsTidyLine format.delimiter (readRow format line).texts := by
    intro line h
    refine ⟨by simpa [Row.texts, readRow] using (text line h).ne_nil, fun t ht => ?_⟩
    obtain ⟨raw, hraw, rfl⟩ : ∃ raw ∈ cellTexts format.delimiter line,
        (readCell format.tagged raw).text = t := by
      simpa [Row.texts, readRow] using ht
    exact isTidyText_readCell ((text line h).text raw hraw) format.tagged
  unfold read
  by_cases heads : format.header = true
  · rw [if_pos heads]
    refine ⟨fun texts h => ?_, fun r hr => ?_, fun headless => ?_, fun _ none => ?_⟩
    · obtain ⟨line, first, rfl⟩ := Option.map_eq_some_iff.1 h
      exact text line (List.mem_of_head? first)
    · obtain ⟨line, later, rfl⟩ := List.mem_map.1 hr
      exact row line (List.mem_of_mem_tail later)
    · exact absurd heads (by simp [headless])
    · rw [Option.map_eq_none_iff, List.head?_eq_none_iff] at none
      simp [none]
  · rw [if_neg heads]
    refine ⟨fun texts h => ?_, fun r hr => ?_, fun _ => rfl, fun headed => absurd headed heads⟩
    · exact absurd h (by simp)
    · obtain ⟨line, h, rfl⟩ := List.mem_map.1 hr
      exact row line h

end Table

/-! ## What a filter leaves -/

/-- Content decides the texts. -/
theorem Row.SameContent.texts_eq {r s : Row} (h : r.SameContent s) : r.texts = s.texts := by
  rw [texts, texts, ← List.forall₂_eq_eq_eq, List.forall₂_map_left_iff, List.forall₂_map_right_iff]
  exact List.Forall₂.imp (fun _ _ same => same.text) h

theorem Grid.SameContent.texts_eq {g h : Grid} (same : g.SameContent h) :
    g.rows.map Row.texts = h.rows.map Row.texts := by
  rw [← List.forall₂_eq_eq_eq, List.forall₂_map_left_iff, List.forall₂_map_right_iff]
  exact List.Forall₂.imp (fun _ _ same => same.texts_eq) same

/-- While a session filters, every visible row has a highlighted cell. -/
theorem Session.justified_setQuery {s : Session} {g : Grid} {query : Text}
    (active : (s.setQuery g query).session.isActive = true) {r : Row}
    (mem : r ∈ (s.setQuery g query).grid.rows) : r.Justified := by
  rw [isActive, setQuery_summary, Summary.ofGrid, Bool.not_eq_true'] at active
  exact forall_rows_evaluateParsed (Row.justified_evaluate active) g r mem

/-! ## What is shown -/

namespace Row

/-- What the cells of a row show: their texts, with brackets around those that are
highlighted. -/
def shownTexts (r : Row) : List Text := r.cells.map Table.showCell

/-- The row as it is shown, without tags and flags. -/
def shown (r : Row) : Row := { cells := r.cells.map fun c => { text := Table.showCell c } }

/-- The row is one empty cell that is not highlighted. -/
def isVoid (r : Row) : Bool :=
  match r.cells with
  | [c] => c.text.isEmpty && !c.highlighted
  | _ => false

theorem plainRow_shownTexts (r : Row) : Table.plainRow r.shownTexts = r.shown := by
  rw [Table.plainRow, shownTexts, List.map_map]
  rfl

/-- Such a row is shown as an empty line, and no other row is. -/
theorem shownTexts_eq_iff {r : Row} : r.shownTexts = [[]] ↔ r.isVoid = true := by
  rw [isVoid, shownTexts]
  split
  · rename_i c cells_eq
    rw [cells_eq, List.map_singleton, List.singleton_inj, Table.showCell]
    cases c.highlighted <;> simp
  · rename_i several
    refine iff_of_false (fun shown => ?_) Bool.false_ne_true
    obtain ⟨c, cells_eq, _⟩ := List.map_eq_singleton_iff.1 shown
    exact several c cells_eq

/-- A row with a highlighted cell is shown as something. -/
theorem IsLit.isVoid_eq_false {r : Row} (h : r.IsLit) : r.isVoid = false := by
  obtain ⟨column, c, hc, lit⟩ := h
  rw [isVoid]
  split
  · rename_i e cells_eq
    obtain rfl : c = e := List.mem_singleton.1 (cells_eq ▸ List.mem_of_getElem? hc)
    simp [lit]
  · rfl

end Row

namespace Table

variable {d : Char} {format : TableFormat} {t : Table}

/-- A change of flags leaves a table tidy. -/
theorem IsTidy.of_sameContent (h : IsTidy format t) {g : Grid} (same : g.SameContent t.grid) :
    IsTidy format { t with grid := g } where
  header := h.header
  row r hr := by
    have mem : r.texts ∈ t.grid.rows.map Row.texts := same.texts_eq ▸ List.mem_map_of_mem hr
    obtain ⟨s, hs, texts_eq⟩ := List.mem_map.1 mem
    exact texts_eq ▸ h.row s hs
  headless := h.headless
  bodiless heads none := by
    have empty := same.texts_eq
    rw [h.bodiless heads none, List.map_nil, List.map_eq_nil_iff] at empty
    exact empty

/-- What a tidy row shows is tidy. -/
theorem isTidyLine_shownTexts {r : Row} (h : IsTidyLine d r.texts) (hd : IsDelimiter d) :
    IsTidyLine d r.shownTexts := by
  refine ⟨by simpa [Row.texts, Row.shownTexts] using h.ne_nil, fun t ht => ?_⟩
  obtain ⟨c, hc, rfl⟩ := List.mem_map.1 ht
  have tidy : IsTidyText d c.text := h.text _ (List.mem_map_of_mem hc)
  rw [showCell]
  split
  · exact tidy.bracketed hd
  · exact tidy

/-- What is written, line by line: the header, and what the visible rows show. -/
def shownLines (t : Table) : List (List Text) :=
  t.header.toList ++ t.grid.visibleRows.map Row.shownTexts

theorem render_eq (t : Table) (d : Char) : t.render d = t.shownLines.flatMap (writeLine d) := by
  rw [render, shownLines, List.flatMap_append, List.flatMap_map]
  cases t.header <;> simp [Row.shownTexts]

theorem IsTidy.shownLines (h : IsTidy format t) (hd : IsDelimiter format.delimiter) :
    ∀ texts ∈ t.shownLines, IsTidyLine format.delimiter texts := by
  intro texts mem
  rcases List.mem_append.1 mem with mem | mem
  · exact h.header texts (Option.mem_toList.1 mem)
  · obtain ⟨r, hr, rfl⟩ := List.mem_map.1 mem
    exact isTidyLine_shownTexts (h.row r (List.mem_of_mem_filter hr)) hd

/-- The lines that are not lost are the header and those of the rows that show
anything. -/
theorem filter_shownLines (named : t.header ≠ some [[]]) :
    t.shownLines.filter (· ≠ [[]]) =
      t.header.toList ++ (t.grid.visibleRows.filter fun r => !r.isVoid).map Row.shownTexts := by
  have header_kept : t.header.toList.filter (· ≠ [[]]) = t.header.toList := by
    refine List.filter_eq_self.2 fun texts h => decide_eq_true fun empty => named ?_
    rw [← empty]
    exact Option.mem_toList.1 h
  rw [Table.shownLines, List.filter_append, header_kept, List.filter_map]
  refine congrArg (_ ++ List.map _ ·) (List.filter_congr fun r _ => ?_)
  rw [Function.comp_apply, Bool.eq_iff_iff, decide_eq_true_iff, Ne, Row.shownTexts_eq_iff,
    Bool.not_eq_true', Bool.not_eq_true]

/-- **A tidy table that is written is read back as it was shown**, but for the rows that
are shown as nothing. -/
theorem read_render (tidy : IsTidy format t) (hd : IsDelimiter format.delimiter)
    (named : t.header ≠ some [[]]) :
    read (t.render format.delimiter) { format with tagged := false } =
      { header := t.header
        grid := ⟨(t.grid.visibleRows.filter fun r => !r.isVoid).map Row.shown⟩ } := by
  have rows_read : ((t.grid.visibleRows.filter fun r => !r.isVoid).map Row.shownTexts).map
      plainRow = (t.grid.visibleRows.filter fun r => !r.isVoid).map Row.shown := by
    rw [List.map_map]
    exact List.map_congr_left fun r _ => r.plainRow_shownTexts
  rw [render_eq]
  refine (read_writeLines (tidy.shownLines hd) hd format.header).trans ?_
  rw [filter_shownLines named]
  by_cases heads : format.header = true
  · rw [if_pos heads]
    cases header_eq : t.header with
    | none =>
      -- A header is only missing where there was no line at all.
      have empty : t.grid.visibleRows = [] := by
        rw [Grid.visibleRows, tidy.bodiless heads header_eq, List.filter_nil]
      rw [empty]
      rfl
    | some texts =>
      rw [← rows_read]
      rfl
  · rw [if_neg heads, tidy.headless (Bool.eq_false_iff.2 heads), ← rows_read]
    rfl

/-- **The text that a filter leaves is read back as the rows that it shows.** The
delimiter is no line ending and no bracket, and the header, if there is one, is not a
single empty name. Whatever the table, the session and the query: when the header and
the visible rows are written and read again without tags, the header is the same, and
the rows are the visible ones in their order, as they were shown, but for those of one
empty cell that is not highlighted. While the filter is active no row is left out. -/
theorem read_render_filtered (contents : Text) {format : TableFormat}
    (hd : IsDelimiter format.delimiter) (named : (read contents format).header ≠ some [[]])
    (s : Session) (query : Text) :
    let step := s.setQuery (read contents format).grid query
    let table : Table := { read contents format with grid := step.grid }
    let again := read (table.render format.delimiter) { format with tagged := false }
    again.header = table.header ∧
    again.grid.rows = (table.grid.visibleRows.filter fun r => !r.isVoid).map Row.shown ∧
    (step.session.isActive = true →
      again.grid.rows = table.grid.visibleRows.map Row.shown) := by
  intro step table again
  have tidy : IsTidy format table :=
    (isTidy_read contents format).of_sameContent (s.setQuery_sameContent _ query)
  have again_eq : again = { header := table.header, grid :=
      ⟨(table.grid.visibleRows.filter fun r => !r.isVoid).map Row.shown⟩ } :=
    read_render tidy hd named
  refine ⟨by rw [again_eq], by rw [again_eq], fun active => ?_⟩
  have shown : ∀ r ∈ table.grid.visibleRows, (!r.isVoid) = true := by
    intro r hr
    obtain ⟨mem, visible⟩ := List.mem_filter.1 hr
    rw [(Session.justified_setQuery active mem visible).isVoid_eq_false, Bool.not_false]
  rw [again_eq, List.filter_eq_self.2 shown]

/-- A table with a tag, a cell that is found, and an empty line that no row stands for;
and one with a blank line, whose row is lost while nothing is filtered. -/
theorem read_render_filtered_tagged :
    let contents := "n|k\n\n{t}ab| c \nd|\n".toList
    let format : TableFormat := { delimiter := '|', header := true, tagged := true }
    let blank := "a\n \nb\n".toList
    let bare : TableFormat := { delimiter := '|' }
    let s : Session := { config := { matchMode := .findAny } }
    let step := s.setQuery (read contents format).grid "a".toList
    let table : Table := { read contents format with grid := step.grid }
    let again := read (table.render '|') { format with tagged := false }
    let whole : Table := { read blank bare with grid := (s.setQuery (read blank bare).grid []).grid }
    IsDelimiter '|' ∧ (read contents format).header ≠ some [[]] ∧ step.session.isActive = true ∧
      again.header = some [['n'], ['k']] ∧
      again.grid.rows = [{ cells := [{ text := "[ab]".toList }, { text := ['c'] }] }] ∧
      whole.grid.visibleRows.length = 3 ∧
      (read (whole.render '|') bare).grid.rows =
        [{ cells := [{ text := ['a'] }] }, { cells := [{ text := ['b'] }] }] := by
  intro contents format blank bare s step table again whole
  have hd : IsDelimiter '|' := ⟨by decide, by decide, by decide, by decide⟩
  have named : (read contents format).header ≠ some [[]] := by decide
  have active : step.session.isActive = true := by decide
  obtain ⟨header_eq, _, rows_eq⟩ :=
    @read_render_filtered contents format hd named s "a".toList
  obtain ⟨_, kept_eq, _⟩ := @read_render_filtered blank bare hd (by decide) s []
  exact ⟨hd, named, active, header_eq.trans (by decide), (rows_eq active).trans (by decide),
    by decide, kept_eq.trans (by decide)⟩

end Table

end GridFilter
