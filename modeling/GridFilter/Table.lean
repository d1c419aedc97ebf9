/-
Tables as text: lines of cells with a delimiter between them.

Reading drops empty lines and the blanks around every cell. If cells are tagged,
one that begins with a word in braces carries that word as a tag and has only the
rest as its text. Writing shows what a filter left: the header and the visible
rows, with brackets around the cells that matched.
-/
import GridFilter.Evaluation

set_option autoImplicit false

namespace GridFilter

/-- How a table is written. -/
structure TableFormat where
  delimiter : Char
  /-- The first line names the columns. -/
  header : Bool := false
  /-- Cells may carry a tag. -/
  tagged : Bool := false
  deriving DecidableEq, Repr

/-- A table: a grid, perhaps with the names of its columns. -/
structure Table where
  header : Option (List Text)
  grid : Grid
  deriving DecidableEq

namespace Table

/-- The tag and the text of a cell that begins with a tag. -/
def splitTag? (raw : Text) : Option (Text × Text) :=
  match raw with
  | '\x7b' :: rest =>
    ((Text.splitFirst? '\x7d' rest).map fun (tag, text) => (Text.trim tag, Text.trim text)).filter
      fun (tag, _) => !tag.isEmpty
  | _ => none

/-- Reads a cell from its text without the blanks around it. -/
def readCell (tagged : Bool) (raw : Text) : Cell :=
  match if tagged then splitTag? raw else none with
  | some (tag, text) => { text, tags := [tag] }
  | none => { text := raw }

/-- The texts of the cells on a line. -/
def cellTexts (delimiter : Char) (line : Text) : List Text :=
  (line.splitAll delimiter).map Text.trim

/-- Reads a row from its line. -/
def readRow (format : TableFormat) (line : Text) : Row :=
  { cells := (cellTexts format.delimiter line).map (readCell format.tagged) }

/-- Reads a table. -/
def read (contents : Text) (format : TableFormat) : Table :=
  let lines := contents.lines.filter fun line => !line.isEmpty
  if format.header then
    { header := lines.head?.map (cellTexts format.delimiter),
      grid := ⟨lines.tail.map (readRow format)⟩ }
  else { header := none, grid := ⟨lines.map (readRow format)⟩ }

/-- A cell as it is shown. -/
def showCell (c : Cell) : Text :=
  if c.highlighted then '[' :: (c.text ++ [']']) else c.text

/-- A line of cells. -/
def writeLine (delimiter : Char) (cells : List Text) : Text :=
  Text.join [delimiter] cells ++ ['\n']

/-- Writes the header and the visible rows. -/
def render (t : Table) (delimiter : Char) : Text :=
  t.header.elim [] (writeLine delimiter) ++
    t.grid.visibleRows.flatMap fun r => writeLine delimiter (r.cells.map showCell)

end Table

end GridFilter
