/-
Tables with tags, written and read back.

A cell with a tag is written as the tag in braces and the text behind it, and any other cell
as its text. Every layer of reading has something that it could take from this: lines are
cut at line feeds and lose a carriage return, empty lines are dropped, a line is cut at the
delimiter, cells lose the blanks around them, and the first closing brace ends a tag. What
each layer must not find is a condition on texts and tags (`TaggedText.IsWritable`), and a
written cell passes through all of them as a tidy text (`IsWritable.isTidyText_write`).

So the rows come back with their tags, whatever lies between their lines (`read_writeTagged`).
A delimiter may be a blank or a bracket here, since nothing that is written needs brackets,
and what is between two delimiters neither begins nor ends with a blank.
-/
import GridFilter.Proofs.Table.Rendering

set_option autoImplicit false

namespace GridFilter

namespace Table

/-- A delimiter that is no line ending and none of the braces around tags. -/
structure IsTagDelimiter (d : Char) : Prop where
  ne_feed : d ≠ '\n'
  ne_return : d ≠ '\r'
  ne_opening : d ≠ '\x7b'
  ne_closing : d ≠ '\x7d'

variable {d : Char}

/-! ## Cells -/

/-- The text begins with what is read as a tag: a brace, something that is not blank, and
the first brace that closes. -/
def BeginsWithTag (raw : Text) : Prop :=
  ∃ before after : Text, raw = '\x7b' :: (before ++ '\x7d' :: after) ∧ '\x7d' ∉ before ∧
    ∃ c ∈ before, Text.isBlank c = false

theorem splitTag?_eq_none_iff {raw : Text} : splitTag? raw = none ↔ ¬ BeginsWithTag raw := by
  have solid : ∀ before : Text, before.trim ≠ [] ↔ ∃ c ∈ before, Text.isBlank c = false := by
    intro before
    simp [Text.trim_eq_nil_iff]
  constructor
  · rintro none ⟨before, after, whole, first, there⟩
    have tagged : splitTag? raw = some (before.trim, after.trim) :=
      splitTag?_eq_some_iff.2 ⟨before, after, whole, first, rfl, rfl, (solid before).2 there⟩
    rw [none] at tagged
    cases tagged
  · intro bare
    cases cut : splitTag? raw with
    | none => rfl
    | some parts =>
      obtain ⟨before, after, whole, first, rest⟩ := splitTag?_eq_some_iff.1 cut
      obtain ⟨tag_eq, _, there⟩ := rest
      exact absurd ⟨before, after, whole, first, (solid before).1 (tag_eq ▸ there)⟩ bare

instance (raw : Text) : Decidable (BeginsWithTag raw) :=
  decidable_of_iff (splitTag? raw ≠ none) (not_iff_comm.1 splitTag?_eq_none_iff.symm)

instance (t : Text) : Decidable (IsTidyText d t) :=
  decidable_of_iff (t.trim = t ∧ d ∉ t ∧ '\n' ∉ t)
    ⟨fun ⟨trimmed, undivided, one_line⟩ => ⟨trimmed, undivided, one_line⟩,
      fun h => ⟨h.trim_eq, h.undivided, h.one_line⟩⟩

/-- The text of a cell, and its tag if it has one. -/
structure TaggedText where
  tag : Option Text := none
  text : Text
  deriving DecidableEq, Repr

namespace TaggedText

/-- The cell as it is written. -/
def write (c : TaggedText) : Text :=
  match c.tag with
  | some tag => '\x7b' :: (tag ++ '\x7d' :: c.text)
  | none => c.text

/-- The cell as it is in a grid. -/
def cell (c : TaggedText) : Cell := { text := c.text, tags := c.tag.toList }

/-- What reading asks of a cell: the text can stand between delimiters, and so can the tag,
which is there and ends no tag before its end; and without a tag the text does not begin
with one. -/
structure IsWritable (d : Char) (c : TaggedText) : Prop where
  text : IsTidyText d c.text
  tag : ∀ tag ∈ c.tag, IsTidyText d tag ∧ tag ≠ [] ∧ '\x7d' ∉ tag
  bare : c.tag = none → ¬ BeginsWithTag c.text

namespace IsWritable

variable {c : TaggedText}

instance : Decidable (c.IsWritable d) :=
  decidable_of_iff
    (IsTidyText d c.text ∧ (∀ tag ∈ c.tag, IsTidyText d tag ∧ tag ≠ [] ∧ '\x7d' ∉ tag) ∧
      (c.tag = none → ¬ BeginsWithTag c.text))
    ⟨fun ⟨text, tag, bare⟩ => ⟨text, tag, bare⟩, fun h => ⟨h.text, h.tag, h.bare⟩⟩

/-- The braces around a tag leave a cell tidy. -/
theorem isTidyText_write (h : c.IsWritable d) (hd : IsTagDelimiter d) :
    IsTidyText d c.write := by
  obtain ⟨_ | tag, text⟩ := c
  · exact h.text
  · obtain ⟨tidy, _, _⟩ := h.tag tag rfl
    have written : write ⟨some tag, text⟩ = ('\x7b' :: tag) ++ '\x7d' :: text := rfl
    rw [written]
    refine ⟨Text.trim_eq_self_iff.2 ⟨fun c hc => ?_, fun c hc => ?_⟩, ?_, ?_⟩
    · rw [List.cons_append, List.head?_cons, Option.some.injEq] at hc
      exact hc ▸ rfl
    · -- The last character is that of the text, or the closing brace before an empty one.
      rw [List.getLast?_append_of_ne_nil _ (List.cons_ne_nil _ _)] at hc
      cases text with
      | nil => exact (Option.some.inj hc) ▸ rfl
      | cons e rest =>
        rw [List.getLast?_cons_cons] at hc
        exact (Text.trim_eq_self_iff.1 h.text.trim_eq).2 c hc
    · have undivided : d ∉ text := h.text.undivided
      simp [hd.ne_opening, hd.ne_closing, tidy.undivided, undivided]
    · have one_line : '\n' ∉ text := h.text.one_line
      simp [tidy.one_line, one_line]

/-- **A written cell is read back**, with its tag or without one. -/
theorem readCell_write (h : c.IsWritable d) : readCell true c.write = c.cell := by
  obtain ⟨_ | tag, text⟩ := c
  · have no_tag : splitTag? text = none := splitTag?_eq_none_iff.2 (h.bare rfl)
    simp [readCell, write, cell, no_tag]
  · obtain ⟨tidy, there, first⟩ := h.tag tag rfl
    have tagged : splitTag? (write ⟨some tag, text⟩) = some (tag, text) :=
      splitTag?_eq_some_iff.2 ⟨tag, text, rfl, first, tidy.trim_eq, h.text.trim_eq, there⟩
    simp [readCell, cell, tagged]

end IsWritable

/-- Only an empty text without a tag is written as nothing. -/
theorem write_eq_nil_iff {c : TaggedText} : c.write = [] ↔ c = { text := [] } := by
  obtain ⟨_ | tag, text⟩ := c <;> simp [write]

end TaggedText

/-! ## Rows -/

/-- The row of a grid that some cells make. -/
def taggedRow (cells : List TaggedText) : Row := { cells := cells.map TaggedText.cell }

/-- The line that some cells are written on. -/
def taggedLine (d : Char) (cells : List TaggedText) : Text :=
  Text.join [d] (cells.map TaggedText.write)

/-- Cells that make a line of their own: there are some, each can be written, and they are
more than one empty cell, whose line would be empty. -/
structure IsWritableRow (d : Char) (cells : List TaggedText) : Prop where
  ne_nil : cells ≠ []
  cell : ∀ c ∈ cells, c.IsWritable d
  ne_void : cells ≠ [{ text := [] }]

namespace IsWritableRow

variable {cells : List TaggedText}

instance : Decidable (IsWritableRow d cells) :=
  decidable_of_iff (cells ≠ [] ∧ (∀ c ∈ cells, c.IsWritable d) ∧ cells ≠ [{ text := [] }])
    ⟨fun ⟨ne_nil, cell, ne_void⟩ => ⟨ne_nil, cell, ne_void⟩,
      fun h => ⟨h.ne_nil, h.cell, h.ne_void⟩⟩

variable (h : IsWritableRow d cells) (hd : IsTagDelimiter d)
include h hd

/-- What is written between the delimiters of its line is tidy. -/
theorem isTidyLine : IsTidyLine d (cells.map TaggedText.write) where
  ne_nil := by simpa using h.ne_nil
  text t ht := by
    obtain ⟨c, hc, rfl⟩ := List.mem_map.1 ht
    exact (h.cell c hc).isTidyText_write hd

/-- The line is not one of those that reading drops. -/
theorem taggedLine_ne_nil : taggedLine d cells ≠ [] := by
  rw [taggedLine, Ne, (h.isTidyLine hd).join_eq_nil_iff, List.map_eq_singleton_iff]
  rintro ⟨c, rfl, empty⟩
  rw [TaggedText.write_eq_nil_iff.1 empty] at h
  exact h.ne_void rfl

/-- **The line of a row is read as the row.** -/
theorem readRow_taggedLine :
    readRow { delimiter := d, tagged := true } (taggedLine d cells) = taggedRow cells := by
  have read_back : ∀ c ∈ cells, (readCell true ∘ TaggedText.write) c = c.cell := fun c hc =>
    (h.cell c hc).readCell_write
  rw [readRow, taggedLine, (h.isTidyLine hd).cellTexts_join, List.map_map,
    List.map_congr_left read_back, taggedRow]

end IsWritableRow

/-! ## Files -/

/-- A line of a file: a row, or nothing at all, and how the line is ended. -/
structure FileLine where
  row? : Option (List TaggedText)
  ending : Text.LineEnd

/-- What stands on the line. -/
def FileLine.text (d : Char) (l : FileLine) : Text := l.row?.elim [] (taggedLine d)

/-- Writes all lines with their endings. -/
def writeTagged (d : Char) (lines : List FileLine) : Text :=
  lines.flatMap fun l => l.text d ++ l.ending.text

section

variable {lines : List FileLine}
  (writable : ∀ l ∈ lines, ∀ cells ∈ l.row?, IsWritableRow d cells) (hd : IsTagDelimiter d)

include writable hd

/-- Lines are cut where they were ended. -/
theorem lines_writeTagged :
    Text.lines (writeTagged d lines) = lines.map (FileLine.text d) := by
  refine Text.lines_flatMap_lineEnd fun l hl => ?_
  rw [FileLine.text]
  cases row_eq : l.row? with
  | none => simp
  | some cells =>
    have tidy := (writable l hl cells row_eq).isTidyLine hd
    exact ⟨tidy.feed_not_mem_join hd.ne_feed, tidy.getLast?_join_ne_return hd.ne_return⟩

/-- The lines that are not empty are those of the rows. -/
theorem filter_map_text :
    (lines.map (FileLine.text d)).filter (fun line => !line.isEmpty) =
      (lines.filterMap (·.row?)).map (taggedLine d) := by
  induction lines with
  | nil => rfl
  | cons l lines ih =>
    obtain ⟨first, rest⟩ := List.forall_mem_cons.1 writable
    rw [List.map_cons, List.filter_cons, ih rest, FileLine.text]
    cases row_eq : l.row? with
    | none => rw [List.filterMap_cons_none row_eq]; rfl
    | some cells =>
      have there : taggedLine d cells ≠ [] := (first cells row_eq).taggedLine_ne_nil hd
      rw [List.filterMap_cons_some row_eq, Option.elim_some, if_pos (by simpa using there),
        List.map_cons]

end

/-- **Tagged cells that are written are read back.** The delimiter is neither a line ending
nor a brace. Each line of a file is empty or holds a row, and is ended with or without a
carriage return. A row has at least one cell, and is not a single empty cell without a tag.
Texts and tags are trimmed and hold neither the delimiter nor a line feed; a tag is there and
holds no closing brace, and a text without a tag does not begin with something that would be
read as one. Then reading the file gives the rows, in order, with their texts and with
their tags. -/
theorem read_writeTagged (hd : IsTagDelimiter d) {lines : List FileLine}
    (writable : ∀ l ∈ lines, ∀ cells ∈ l.row?, IsWritableRow d cells) :
    read (writeTagged d lines) { delimiter := d, tagged := true } =
      { header := none, grid := ⟨(lines.filterMap (·.row?)).map taggedRow⟩ } := by
  have rows_read : ∀ cells ∈ lines.filterMap (·.row?),
      (readRow { delimiter := d, tagged := true } ∘ taggedLine d) cells = taggedRow cells := by
    intro cells mem
    obtain ⟨l, hl, row_eq⟩ := List.mem_filterMap.1 mem
    exact (writable l hl cells row_eq).readRow_taggedLine hd
  have kept : (Text.lines (writeTagged d lines)).filter (fun line => !line.isEmpty) =
      (lines.filterMap (·.row?)).map (taggedLine d) := by
    rw [lines_writeTagged writable hd, filter_map_text writable hd]
  simp only [read, kept, Bool.false_eq_true, if_false, List.map_map,
    List.map_congr_left rows_read]

/-- The delimiter is a blank. A tag holds a blank and another an opening brace, a text without
a tag has blanks in braces, one has a carriage return inside, and the empty lines between the
rows are ended differently. -/
theorem read_writeTagged_tab :
    let lines : List FileLine :=
      [⟨none, .returnFeed⟩,
        ⟨some [⟨some "a b".toList, "x".toList⟩, ⟨none, []⟩], .returnFeed⟩,
        ⟨none, .feed⟩,
        ⟨some [⟨none, "\x7b \x7dy".toList⟩, ⟨some "\x7bq".toList, []⟩, ⟨none, "u\rv".toList⟩],
          .feed⟩]
    IsTagDelimiter '\t' ∧ (∀ l ∈ lines, ∀ cells ∈ l.row?, IsWritableRow '\t' cells) ∧
      writeTagged '\t' lines =
        "\r\n\x7ba b\x7dx\t\r\n\n\x7b \x7dy\t\x7b\x7bq\x7d\tu\rv\n".toList ∧
      read (writeTagged '\t' lines) { delimiter := '\t', tagged := true } =
        { header := none
          grid := ⟨[{ cells := [{ text := "x".toList, tags := ["a b".toList] }, { text := [] }] },
            { cells := [{ text := "\x7b \x7dy".toList }, { text := [], tags := ["\x7bq".toList] },
              { text := "u\rv".toList }] }]⟩ } := by
  intro lines
  have writable : ∀ l ∈ lines, ∀ cells ∈ l.row?, IsWritableRow '\t' cells := by decide
  have tab : IsTagDelimiter '\t' := ⟨by decide, by decide, by decide, by decide⟩
  refine ⟨tab, writable, by decide, ?_⟩
  rw [read_writeTagged tab writable]
  rfl

end Table

end GridFilter
