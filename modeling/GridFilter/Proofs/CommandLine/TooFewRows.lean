/-
Tables with too few rows.

A table that has fewer rows than the settings ask for is shown as if there were no query. The
program does not leave the filter out for that: it runs it on the empty query, under settings
that the request has changed already. So the query of the request and its options are still
around, and it takes the whole way of a run to see that nothing of them comes through. The
number of rows that is asked for is not among the settings that a request names
(`FilterRequest.isEligible_override`). The empty query is too short however few characters
the settings ask for, so no term, mode or ignored cell is looked at (`Session.setQuery_nil`).
And what is printed is made of the table alone (`Table.render_reset`,
`Report.ofSession_setQuery_nil`). The report that is printed then is written out here, to the
last blank (`Report.idleText`), and shown to be what the printer makes of its data
(`Report.write_toJson_idle`).

So two runs on such a table say the same, whatever is asked of them
(`run_filter_too_few_rows`). Which tables these are is told without reading a cell: the rows
are the lines that are left when the empty ones and the header are taken away
(`Table.length_rows_read`).
-/
import GridFilter.Proofs.CommandLine.Overrides
import GridFilter.Proofs.Table.Decisions

set_option autoImplicit false

namespace GridFilter

/-! ## The rows of a table -/

/-- The lines that hold the rows: those that are not empty, without the header. -/
def TableFormat.rowLines (format : TableFormat) (contents : Text) : List Text :=
  (contents.lines.filter fun line => !line.isEmpty).drop (if format.header then 1 else 0)

namespace Table

/-- Every one of these lines is a row. -/
theorem length_rows_read (contents : Text) (format : TableFormat) :
    (read contents format).grid.rows.length = (format.rowLines contents).length := by
  rw [read, TableFormat.rowLines]
  cases format.header <;> simp

/-- The header and all rows, with nothing around any cell. -/
def renderPlain (t : Table) (d : Char) : Text :=
  (t.header.toList ++ t.grid.rows.map fun r => r.cells.map (·.text)).flatMap
    fun cells => List.intercalate [d] cells ++ ['\n']

end Table

/-- Fewer rows than are asked for are not filtered. -/
theorem Config.isEligible_eq_false {c : Config} {rowCount : Nat}
    (few : rowCount < c.minRows.toNat) : c.isEligible rowCount = false := by
  have asked : c.minRows ≠ 0 := by
    rintro none
    simp [none] at few
  rw [isEligible, Bool.or_eq_false_iff, beq_eq_false_iff_ne, decide_eq_false_iff_not, Nat.not_le]
  exact ⟨asked, few⟩

/-! ## A reset grid -/

/-- No cell of a row that was reset is shown in brackets. -/
theorem Row.shownTexts_reset (r : Row) (visible : Bool) : (r.reset visible).shownTexts = r.texts := by
  rw [shownTexts, reset, texts, List.map_map]
  rfl

/-- Nor does one of its cells count as highlighted. -/
theorem Row.highlightedColumns_reset (r : Row) (visible : Bool) :
    (r.reset visible).highlightedColumns = [] := by
  refine List.eq_nil_iff_forall_not_mem.2 fun column mem => ?_
  obtain ⟨c, there, lit⟩ := mem_highlightedColumns_iff.1 mem
  rw [reset, List.getElem?_map, Option.map_eq_some_iff] at there
  obtain ⟨b, -, rfl⟩ := there
  cases lit

/-- Every row of a grid that was reset to be seen is visible. -/
theorem Grid.visibleRows_reset (g : Grid) : (g.reset true).visibleRows = (g.reset true).rows := by
  refine List.filter_eq_self.2 fun r mem => ?_
  obtain ⟨s, -, rfl⟩ := List.mem_map.1 mem
  rfl

/-- A table whose grid was reset to be seen is shown as it was read. -/
theorem Table.render_reset (t : Table) (d : Char) :
    Table.render { t with grid := t.grid.reset true } d = t.renderPlain d := by
  rw [render_eq, shownLines, renderPlain, Grid.visibleRows_reset, Grid.reset, List.map_map]
  exact congrArg (fun rows => (t.header.toList ++ rows).flatMap (writeLine d))
    (List.map_congr_left fun r _ => r.shownTexts_reset true)

/-! ## The empty query -/

/-- The empty query shows everything, whatever the settings of the session are. -/
theorem Session.setQuery_nil (s : Session) (g : Grid) :
    s.setQuery g [] =
      { session := { s with
          current := {}
          summary := { totalRows := g.rows.length, visibleRows := g.rows.length } }
        grid := g.reset true } := by
  have rows : (g.reset true).rows.length = g.rows.length := List.length_map _
  simp only [setQuery, refresh, Config.filterParsed, evaluateParsed, ParsedQuery.ofText,
    Query.isDegenerate, List.isEmpty_nil, Bool.true_or, if_true, Summary.ofGrid, rows,
    Grid.visibleCount_reset, Grid.highlightedCount_reset]
  rfl

namespace Report

/-- The report of a filter that has nothing to do, on so many rows. -/
def idle (rowCount : Nat) : Report where
  query := []
  terms := []
  summary := { active := false, totalRows := rowCount, visibleRows := rowCount,
               highlightedCells := 0 }
  rows := (List.range rowCount).map fun index => { index, visible := true, highlighted := [] }

/-- The report of the empty query is told by the number of rows. -/
theorem ofSession_setQuery_nil (s : Session) (g : Grid) :
    ofSession (s.setQuery g []).session (s.setQuery g []).grid =
      idle g.rows.length := by
  have decisions : (g.reset true).rows.mapIdx
      (fun index r => ({ index, visible := r.visible, highlighted := r.highlightedColumns } :
        RowDecision)) =
      (List.range g.rows.length).map fun index => { index, visible := true, highlighted := [] } := by
    refine List.ext_getElem (by simp [Grid.reset]) fun i _ _ => ?_
    simp only [Grid.reset, List.getElem_mapIdx, List.getElem_map, List.getElem_range,
      Row.highlightedColumns_reset]
    rfl
  rw [Session.setQuery_nil, ofSession, decisions]
  rfl

/-! ## The report that is printed -/

/-- A row that is visible and has no highlighted cell, as it is printed. -/
def idleRowText (index : Nat) : Text :=
  "\x7b\n".toList ++
  "      \"index\": ".toList ++ index.repr.toList ++ ",\n".toList ++
  "      \"visible\": true,\n".toList ++
  "      \"highlighted\": []\n".toList ++
  "    \x7d".toList

/-- So many of these rows as they are printed. -/
def idleRowsText (rowCount : Nat) : Text :=
  if rowCount = 0 then "[]".toList
  else
    "[\n    ".toList ++
      List.intercalate ",\n    ".toList ((List.range rowCount).map idleRowText) ++ "\n  ]".toList

/-- The summary of a filter that is not active, as it is printed. -/
def idleSummaryText (rowCount : Nat) : Text :=
  "\x7b\n".toList ++
  "    \"active\": false,\n".toList ++
  "    \"total_rows\": ".toList ++ rowCount.repr.toList ++ ",\n".toList ++
  "    \"visible_rows\": ".toList ++ rowCount.repr.toList ++ ",\n".toList ++
  "    \"highlighted_cells\": 0\n".toList ++
  "  \x7d".toList

/-- The report of so many rows as it is printed where nothing is filtered: no query and no
terms, a filter that is not active, and every row visible and without highlights. -/
def idleText (rowCount : Nat) : Text :=
  "\x7b\n".toList ++
  "  \"query\": \"\",\n".toList ++
  "  \"terms\": [],\n".toList ++
  "  \"summary\": ".toList ++ idleSummaryText rowCount ++ ",\n".toList ++
  "  \"rows\": ".toList ++ idleRowsText rowCount ++ "\n".toList ++
  "\x7d\n".toList

theorem write_rowJson_idle (index : Nat) :
    (rowJson { index, visible := true, highlighted := [] }).write 2 = idleRowText index := by
  unfold idleRowText
  rw [Nat.toList_repr, rowJson]
  simp [Json.write, Json.writeMembers, Json.writeItems, Json.enclose, Json.newLine,
    Json.writeString, Json.escapeChar, Text.join, List.intercalate, List.replicate, Text.ofNat]

theorem write_rows_idle (rowCount : Nat) :
    (Json.array ((idle rowCount).rows.map rowJson)).write 1 = idleRowsText rowCount := by
  have items : Json.writeItems 2 ((idle rowCount).rows.map rowJson) =
      (List.range rowCount).map idleRowText := by
    rw [Json.writeItems_eq_map, idle, List.map_map, List.map_map]
    exact List.map_congr_left fun index _ => write_rowJson_idle index
  rw [Json.write, items, idleRowsText]
  split
  · rename_i no_rows
    rw [no_rows]
    rfl
  · rename_i rows
    rw [Json.enclose_of_ne_nil _ _ _ (by simpa using rows)]
    simp [Json.newLine, Text.join, List.replicate]

theorem write_summaryJson_idle (rowCount : Nat) :
    (summaryJson (idle rowCount).summary).write 1 = idleSummaryText rowCount := by
  have none_lit : Nat.toDigits 10 0 = ['0'] := rfl
  unfold idleSummaryText
  rw [Nat.toList_repr, summaryJson, idle]
  simp [Json.write, Json.writeMembers, Json.enclose, Json.newLine, Json.writeString,
    Json.escapeChar, Text.join, List.intercalate, List.replicate, Text.ofNat, none_lit]

/-- **What is printed of the data is the text.** -/
theorem write_toJson_idle (rowCount : Nat) :
    (idle rowCount).toJson.write 0 ++ ['\n'] = idleText rowCount := by
  unfold idleText
  rw [toJson, ← write_summaryJson_idle, ← write_rows_idle]
  generalize summaryJson (idle rowCount).summary = summary
  generalize (idle rowCount).rows.map rowJson = rows
  simp [idle, Json.write, Json.writeMembers, Json.writeItems, Json.enclose, Json.newLine,
    Json.writeString, Json.escapeChar, Text.join, List.intercalate, List.replicate]

end Report

namespace CommandLine

/-! ## Runs on too few rows -/

/-- A request asks for no number of rows. -/
theorem FilterRequest.isEligible_override (r : FilterRequest) (c : Config) (rowCount : Nat) :
    (r.override c).isEligible rowCount = c.isEligible rowCount := rfl

/-- What is printed of a table with too few rows: the table as it was read, or a report that
tells nothing but how many rows there are. -/
def unfiltered (contents : Text) (format : TableFormat) (json : Bool) : Text :=
  if json then Report.idleText (format.rowLines contents).length
  else (Table.read contents format).renderPlain format.delimiter

/-- **What a filter run on too few rows comes to.** -/
theorem filterTable_too_few_rows (store : FileStore) (r : FilterRequest) {c : Config}
    {contents : Text} (few : (r.format.rowLines contents).length < c.minRows.toNat) :
    filterTable store r (r.override c) contents =
      { output := unfiltered contents r.format r.json
        errors := if r.json then [] else
          Text.ofNat (r.format.rowLines contents).length ++
            " rows (below min_rows); filter not applied\n".toList
        store } := by
  rw [← Table.length_rows_read] at few
  have ineligible := Config.isEligible_eq_false few
  rw [filterTable, r.isEligible_override, ineligible, unfiltered]
  -- From here on the query is the empty one, and the session has the settings of the request.
  simp only [Bool.false_eq_true, if_false, Report.ofSession_setQuery_nil,
    Report.write_toJson_idle, Table.length_rows_read]
  cases r.json with
  | true => rfl
  | false =>
    simp only [Bool.false_eq_true, if_false, Session.setQuery_nil, Table.render_reset,
      Table.length_rows_read]
    rfl

/-- **Of a table with too few rows nothing of the request is seen.** The settings can be used
and ask for more rows than the table has lines with rows. Then the filter succeeds and prints
the table as it was read, or a report without a query. A run with another query and other
options says the same, as long as it reads the same table in the same format and is to
print the same thing of it. -/
theorem Environment.run_filter_too_few_rows {env : Environment} {named : Option Text} {c : Config}
    (loaded : env.loadConfig named = .ok c) {r : FilterRequest} {contents : Text}
    (table : env.readTable r.file = .ok contents)
    (few : (r.format.rowLines contents).length < c.minRows.toNat) :
    let run (r : FilterRequest) := env.run { config := named, command := .filter r }
    (run r).exitCode = 0 ∧ (run r).output = unfiltered contents r.format r.json ∧
      ∀ r' : FilterRequest, r'.file = r.file → r'.format = r.format → r'.json = r.json →
        (run r').SaysSame (run r) := by
  intro run
  have run_eq : ∀ r' : FilterRequest, r'.file = r.file →
      run r' = filterTable env.store r' (r'.override c) contents := by
    intro r' file
    simp only [run, Environment.run, loaded, runFilter, file, table]
  have run_r := (run_eq r rfl).trans (filterTable_too_few_rows env.store r few)
  refine ⟨by rw [run_r], by rw [run_r], fun r' file format json => ?_⟩
  have few' : (r'.format.rowLines contents).length < c.minRows.toNat := by rwa [format]
  have run_r' := (run_eq r' file).trans (filterTable_too_few_rows env.store r' few')
  rw [format, json] at run_r'
  exact run_r'.trans run_r.symm ▸ ⟨rfl, rfl, rfl⟩

/-- Two rows under a header, where three are asked for. With enough rows the first query would
highlight a cell and hide a row, and the second one is too short for the options it comes with.
A cell that has brackets of its own keeps them. The report counts the rows, and no more. -/
theorem Environment.run_filter_too_few_rows_two :
    let c : Config := { minChars := 0, minRows := 3, ignoreColumns := ColumnSet.empty.insert 1 }
    let contents := "name,kind\n\npear,\x7bt\x7d fruit\r\n[leek],\n".toList
    let r : FilterRequest :=
      { query := "pear".toList, format := { delimiter := ',', header := true, tagged := true } }
    let r' : FilterRequest :=
      { r with query := "-/p/ +".toList, mode := some .findAll, minChars := some 9,
               ignoreColumns := [0], ignoreTag := some ['t'] }
    let env : Environment :=
      { home := [], input := (String.ofList contents).toUTF8,
        store := {
          entries := [([['s']], .file (String.ofList
            "min_chars = 0\nmin_rows = 3\nignore_columns = 1\n".toList).toUTF8)],
          workingDirectory := [] } }
    let run (r : FilterRequest) := env.run { config := some ['s'], command := .filter r }
    env.loadConfig (some ['s']) = .ok c ∧ env.readTable none = .ok contents ∧
      r.format.rowLines contents = ["pear,\x7bt\x7d fruit".toList, "[leek],".toList] ∧
      (run r).exitCode = 0 ∧ (run r).output = "name,kind\npear,fruit\n[leek],\n".toList ∧
      (run r').SaysSame (run r) ∧
      (run { r with json := true }).exitCode = 0 ∧
      (run { r with json := true }).output =
        ("\x7b\n".toList ++
         "  \"query\": \"\",\n".toList ++
         "  \"terms\": [],\n".toList ++
         "  \"summary\": \x7b\n".toList ++
         "    \"active\": false,\n".toList ++
         "    \"total_rows\": 2,\n".toList ++
         "    \"visible_rows\": 2,\n".toList ++
         "    \"highlighted_cells\": 0\n".toList ++
         "  \x7d,\n".toList ++
         "  \"rows\": [\n".toList ++
         "    \x7b\n".toList ++
         "      \"index\": 0,\n".toList ++
         "      \"visible\": true,\n".toList ++
         "      \"highlighted\": []\n".toList ++
         "    \x7d,\n".toList ++
         "    \x7b\n".toList ++
         "      \"index\": 1,\n".toList ++
         "      \"visible\": true,\n".toList ++
         "      \"highlighted\": []\n".toList ++
         "    \x7d\n".toList ++
         "  ]\n".toList ++
         "\x7d\n".toList) ∧
      (run { r' with json := true }).SaysSame (run { r with json := true }) := by
  intro c contents r r' env run
  -- The file and the standard input are read back whatever is in them.
  have stored (t : Text) :
      let s : FileStore :=
        { entries := [([['s']], .file (String.ofList t).toUTF8)], workingDirectory := [] }
      s.readText ['s'] = .ok t := FileStore.decode_toUTF8 t
  have loaded : env.loadConfig (some ['s']) = .ok c := loadConfig_eq_ok (stored _) (by rfl)
  have table : env.readTable r.file = .ok contents := by
    change (FileStore.decode (String.ofList contents).toUTF8).mapError Failure.standardInput = _
    rw [FileStore.decode_toUTF8]
    rfl
  have lines : r.format.rowLines contents =
      ["pear,\x7bt\x7d fruit".toList, "[leek],".toList] := by decide +kernel
  have few : (r.format.rowLines contents).length < c.minRows.toNat := by
    rw [lines]
    decide
  obtain ⟨succeeds, printed, same⟩ := run_filter_too_few_rows loaded table few
  obtain ⟨succeeds_json, printed_json, same_json⟩ :=
    run_filter_too_few_rows (r := { r with json := true }) loaded table few
  have shown : unfiltered contents r.format false =
      "name,kind\npear,fruit\n[leek],\n".toList := by decide +kernel
  have shown_json : unfiltered contents r.format true = _ :=
    congrArg (fun rows => Report.idleText (List.length rows)) lines
  refine ⟨loaded, table, lines, succeeds, printed.trans shown, same r' rfl rfl rfl, succeeds_json,
    (printed_json.trans shown_json).trans ?_, same_json { r' with json := true } rfl rfl rfl⟩
  decide +kernel

end CommandLine

end GridFilter
