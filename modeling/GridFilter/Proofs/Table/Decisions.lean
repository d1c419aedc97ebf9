/-
A report beside the text that is shown.

A host gets to know what a filter decided in three ways: as a report with a record for every
row, as the text of the rows that are left, and as the numbers of a summary. Each goes
through the grid on its own. The report numbers the rows and the highlighted cells; the text
leaves rows out and counts nothing; the summary counts and numbers nothing.

The numbers are what ties them together. A record keeps the place of its row, and the
highlighted columns are places in the row as it was read, so the text can be put together
from the report and the table that was read (`Table.decidedLine`), without a look at what
the filter left (`report_render_agree`). That a line of the text stands for each of these
rows is a matter of texts: nothing that was read holds a line feed (`isTidy_read`).
-/
import GridFilter.Proofs.Table.Rendering
import GridFilter.Report
import Mathlib.Algebra.GroupWithZero.Nat

set_option autoImplicit false

namespace GridFilter

/-! ## The highlighted columns of a row -/

namespace Row

variable {r : Row}

/-- A column is among them if there is a highlighted cell in it. -/
theorem mem_highlightedColumns_iff {column : Nat} :
    column ∈ r.highlightedColumns ↔ ∃ c, r.cells[column]? = some c ∧ c.highlighted = true := by
  simp [highlightedColumns, List.mem_zipIdx_iff_getElem?]

theorem lt_of_mem_highlightedColumns {column : Nat} (h : column ∈ r.highlightedColumns) :
    column < r.cells.length := by
  obtain ⟨c, there, _⟩ := mem_highlightedColumns_iff.1 h
  exact (List.getElem?_eq_some_iff.1 there).1

/-- They are listed from left to right, each one once. -/
theorem pairwise_highlightedColumns (r : Row) : r.highlightedColumns.Pairwise (· < ·) := by
  have places : (r.cells.zipIdx.map Prod.snd).Pairwise (· < ·) := by
    rw [List.zipIdx_map_snd]
    exact List.pairwise_lt_range'
  exact places.sublist (List.filter_sublist.map Prod.snd)

theorem length_highlightedColumns (r : Row) :
    r.highlightedColumns.length = r.cells.countP (·.highlighted) := by
  rw [highlightedColumns, List.length_map, ← List.countP_eq_length_filter]
  conv_rhs => rw [← List.zipIdx_map_fst 0 r.cells, List.countP_map]
  rfl

end Row

/-- The highlighted cells of a grid are those of its rows. -/
theorem Grid.highlightedCount_eq_sum (g : Grid) :
    g.highlightedCount = (g.rows.map fun r => r.highlightedColumns.length).sum := by
  simp only [highlightedCount, List.countP_flatMap, Function.comp_def,
    Row.length_highlightedColumns]

/-- Where a row is in one grid there is one with the same texts in another of the same
content. -/
theorem Grid.SameContent.exists_texts_eq {g h : Grid} (same : g.SameContent h) {i : Nat} {r : Row}
    (there : g.rows[i]? = some r) : ∃ r', h.rows[i]? = some r' ∧ r'.texts = r.texts := by
  rw [← Option.map_eq_some_iff, ← List.getElem?_map, ← same.texts_eq, List.getElem?_map, there]
  rfl

/-! ## Brackets by column -/

/-- The texts of a row with brackets around those in some columns. -/
def bracketed (columns : List Nat) (texts : List Text) : List Text :=
  texts.mapIdx fun column t => if column ∈ columns then '[' :: (t ++ [']']) else t

/-- The brackets that are shown stand around the highlighted columns. -/
theorem Row.shownTexts_eq_bracketed (r : Row) :
    r.shownTexts = bracketed r.highlightedColumns r.texts := by
  refine List.ext_getElem? fun column => ?_
  rw [shownTexts, bracketed, texts, List.getElem?_map, List.getElem?_mapIdx, List.getElem?_map,
    Option.map_map]
  cases there : r.cells[column]? with
  | none => rfl
  | some c =>
    have lit : column ∈ r.highlightedColumns ↔ c.highlighted = true := by
      simp [mem_highlightedColumns_iff, there]
    simp only [Option.map_some, Table.showCell, Function.comp_apply, lit]

/-! ## The records of a report -/

/-- The record of a row at its place. -/
def Row.decision (r : Row) (index : Nat) : RowDecision :=
  { index, visible := r.visible, highlighted := r.highlightedColumns }

namespace Report

variable (s : Session) (g : Grid)

theorem rows_ofSession : (ofSession s g).rows = g.rows.zipIdx.map fun (r, i) => r.decision i :=
  List.mapIdx_eq_zipIdx_map

/-- Every record stands for the row at its place. -/
theorem exists_of_mem_rows {record : RowDecision} (h : record ∈ (ofSession s g).rows) :
    ∃ r, g.rows[record.index]? = some r ∧ record = r.decision record.index := by
  rw [rows_ofSession] at h
  obtain ⟨⟨r, i⟩, there, rfl⟩ := List.mem_map.1 h
  exact ⟨r, List.mem_zipIdx_iff_getElem?.1 there, rfl⟩

/-- The records are numbered like the rows. -/
theorem map_index_rows : (ofSession s g).rows.map (·.index) = List.range g.rows.length := by
  rw [rows_ofSession, List.map_map, List.range_eq_range', ← List.zipIdx_map_snd]
  rfl

section

variable {α : Type} {ofRecord : RowDecision → α} {ofRow : Row → α}
  (h : ∀ (i : Nat) (r : Row), g.rows[i]? = some r → ofRecord (r.decision i) = ofRow r)
include h

/-- What is made of the records, in order, can be made of the rows. -/
theorem map_rows : (ofSession s g).rows.map ofRecord = g.rows.map ofRow := by
  conv_rhs => rw [← List.zipIdx_map_fst 0 g.rows]
  rw [rows_ofSession, List.map_map, List.map_map]
  exact List.map_congr_left fun p hp => h p.2 p.1 (List.mem_zipIdx_iff_getElem?.1 hp)

/-- **The records that are visible are those of the visible rows**, in the same order. -/
theorem map_filter_visible_rows :
    ((ofSession s g).rows.filter (·.visible)).map ofRecord = g.visibleRows.map ofRow := by
  have rows_eq : g.visibleRows = (g.rows.zipIdx.filter fun p => p.1.visible).map Prod.fst := by
    conv_lhs => rw [Grid.visibleRows, ← List.zipIdx_map_fst 0 g.rows, List.filter_map]
    rfl
  rw [rows_eq, rows_ofSession, List.filter_map, List.map_map, List.map_map]
  refine List.map_congr_left fun p hp => ?_
  exact h p.2 p.1 (List.mem_zipIdx_iff_getElem?.1 (List.mem_of_mem_filter hp))

end

end Report

namespace Table

/-! ## Lines without line feeds -/

variable {d : Char} {format : TableFormat} {t : Table}

/-- A line that is shown holds no line feed unless the delimiter is one. -/
theorem IsTidy.feed_not_mem_shown (h : IsTidy format t) (hd : d ≠ '\n') :
    ∀ texts ∈ t.shownLines, '\n' ∉ Text.join [d] texts := by
  intro texts mem
  refine Text.not_mem_join (by simpa using hd.symm) fun text htext => ?_
  rcases List.mem_append.1 mem with mem | mem
  · exact ((h.header texts (Option.mem_toList.1 mem)).text text htext).one_line
  · obtain ⟨r, hr, rfl⟩ := List.mem_map.1 mem
    obtain ⟨c, hc, rfl⟩ := List.mem_map.1 htext
    have own : '\n' ∉ c.text :=
      ((h.row r (List.mem_of_mem_filter hr)).text c.text (List.mem_map_of_mem hc)).one_line
    rw [showCell]
    split <;> simp [own]

/-- **What is written is one line for the header and one for every visible row.** -/
theorem IsTidy.splitAll_render (h : IsTidy format t) (hd : d ≠ '\n') :
    Text.splitAll '\n' (t.render d) =
      t.header.toList.map (Text.join [d]) ++
        t.grid.visibleRows.map (fun r => Text.join [d] r.shownTexts) ++ [[]] := by
  have written : t.render d = (t.shownLines.map (Text.join [d])).flatMap (· ++ ['\n']) := by
    rw [render_eq, List.flatMap_map]
    rfl
  have one_line : ∀ line ∈ t.shownLines.map (Text.join [d]), '\n' ∉ line := by
    simpa using h.feed_not_mem_shown hd
  rw [written, Text.splitAll_flatMap one_line, Table.shownLines, List.map_append, List.map_map]
  rfl

/-! ## Three accounts of one filter -/

/-- The line of a record: the texts that stand at its place in the table, with brackets
around those that it lists. -/
def decidedLine (t : Table) (d : Char) (record : RowDecision) : Text :=
  Text.join [d] (bracketed record.highlighted (t.grid.rows[record.index]?.elim [] Row.texts))

/-- A filter writes no texts, so the line of a record is also what its row shows. -/
theorem decidedLine_decision {g : Grid} (same : g.SameContent t.grid) (d : Char) {i : Nat}
    {r : Row} (there : g.rows[i]? = some r) :
    t.decidedLine d (r.decision i) = Text.join [d] r.shownTexts := by
  obtain ⟨r', there', texts_eq⟩ := same.exists_texts_eq there
  rw [decidedLine, Row.decision, there', Option.elim_some, texts_eq, ← r.shownTexts_eq_bracketed]

/-- **The report, the text and the summary tell the same.** A table is read with any format,
and any session sets any query on it. The report has one record for each row of the table,
numbered by its place. As many records are visible as the summary counts visible rows, there
are as many as it counts rows, and they list as many highlighted columns as it counts
highlighted cells. Each record lists its columns in ascending order, and all of them are
columns of the row that was read at its place. And if the delimiter is no line feed, the
text is cut by its line feeds into the header, if there is one, and one line for each
record that is visible, in order: what was read at its place, joined by the delimiter,
with brackets around the columns that it lists and no others. -/
theorem report_render_agree (contents : Text) (format : TableFormat) (s : Session) (query : Text)
    {d : Char} (hd : d ≠ '\n') :
    let table := read contents format
    let step := s.setQuery table.grid query
    let shown : Table := { table with grid := step.grid }
    let records := (Report.ofSession step.session step.grid).rows
    let summary := step.session.summary
    records.map (·.index) = List.range table.grid.rows.length ∧
    (records.filter (·.visible)).length = summary.visibleRows ∧
    records.length = summary.totalRows ∧
    (records.map (·.highlighted.length)).sum = summary.highlightedCells ∧
    (∀ record ∈ records, ∃ r, table.grid.rows[record.index]? = some r ∧
      record.highlighted.Pairwise (· < ·) ∧
      ∀ column ∈ record.highlighted, column < r.cells.length) ∧
    Text.splitAll '\n' (shown.render d) =
      table.header.toList.map (Text.join [d]) ++
        (records.filter (·.visible)).map (table.decidedLine d) ++ [[]] := by
  intro table step shown records summary
  have same : step.grid.SameContent table.grid := s.setQuery_sameContent _ query
  have tidy : IsTidy format shown := (isTidy_read contents format).of_sameContent same
  have rows_length : step.grid.rows.length = table.grid.rows.length := same.length_eq
  have counted := s.setQuery_summary table.grid query
  have indices : records.map (·.index) = List.range table.grid.rows.length := by
    rw [← rows_length]
    exact Report.map_index_rows _ _
  have lines_eq : (records.filter (·.visible)).map (table.decidedLine d) =
      step.grid.visibleRows.map fun r => Text.join [d] r.shownTexts :=
    Report.map_filter_visible_rows _ _ fun i r there => decidedLine_decision same d there
  refine ⟨indices, ?_, ?_, ?_, fun record mem => ?_, ?_⟩
  · have lengths := congrArg List.length lines_eq
    rw [List.length_map, List.length_map] at lengths
    rw [lengths, Grid.visibleRows, ← List.countP_eq_length_filter]
    exact (congrArg Summary.visibleRows counted).symm
  · have lengths := congrArg List.length indices
    rw [List.length_map, List.length_range, ← rows_length] at lengths
    exact lengths.trans (congrArg Summary.totalRows counted).symm
  · have columns : records.map (·.highlighted.length) =
        step.grid.rows.map fun r => r.highlightedColumns.length :=
      Report.map_rows _ _ fun i r there => rfl
    rw [columns, ← Grid.highlightedCount_eq_sum]
    exact (congrArg Summary.highlightedCells counted).symm
  · obtain ⟨r, there, record_eq⟩ := Report.exists_of_mem_rows _ _ mem
    obtain ⟨r', there', texts_eq⟩ := same.exists_texts_eq there
    have columns : record.highlighted = r.highlightedColumns := by rw [record_eq]; rfl
    have width : r'.cells.length = r.cells.length := by
      simpa [Row.texts] using congrArg List.length texts_eq
    rw [columns]
    refine ⟨r', there', r.pairwise_highlightedColumns, fun column lit => ?_⟩
    rw [width]
    exact Row.lt_of_mem_highlightedColumns lit
  · rw [tidy.splitAll_render hd, lines_eq]

/-- A table with a header, a tag and rows of different widths. Two cells of the first row are
found and the second row is hidden; the text has another delimiter than the table. -/
theorem report_render_agree_ragged :
    let contents := "n|k\n{t}ab| c |a\nd\nx|a\n".toList
    let format : TableFormat := { delimiter := '|', header := true, tagged := true }
    let s : Session := { config := { matchMode := .findAny } }
    let table := read contents format
    let step := s.setQuery table.grid "a".toList
    let shown : Table := { table with grid := step.grid }
    let records := (Report.ofSession step.session step.grid).rows
    ',' ≠ '\n' ∧
      records = [⟨0, true, [0, 2]⟩, ⟨1, false, []⟩, ⟨2, true, [1]⟩] ∧
      (records.filter (·.visible)).length = step.session.summary.visibleRows ∧
      (records.map (·.highlighted.length)).sum = step.session.summary.highlightedCells ∧
      Text.splitAll '\n' (shown.render ',') =
        ["n,k".toList, "[ab],c,[a]".toList, "x,[a]".toList, []] := by
  intro contents format s table step shown records
  have comma : ',' ≠ '\n' := by decide
  obtain ⟨_, visible, _, highlighted, _, text⟩ :=
    report_render_agree contents format s "a".toList comma
  have lines : table.header.toList.map (Text.join [',']) ++
      (records.filter (·.visible)).map (table.decidedLine ',') ++ [[]] =
        ["n,k".toList, "[ab],c,[a]".toList, "x,[a]".toList, []] := by decide
  exact ⟨comma, by decide, visible, highlighted, text.trans lines⟩

end Table

end GridFilter
