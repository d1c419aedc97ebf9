/-
Reports: what a filter decided, for hosts that show the table themselves.
-/
import GridFilter.Json
import GridFilter.Session
import GridFilter.Table

set_option autoImplicit false

namespace GridFilter

/-- What was decided about a row. -/
structure RowDecision where
  index : Nat
  visible : Bool
  /-- The columns of the cells that matched. -/
  highlighted : List Nat
  deriving DecidableEq, Repr

/-- What was decided about a table. -/
structure Report where
  query : Text
  terms : List Term
  summary : Summary
  rows : List RowDecision
  deriving DecidableEq, Repr

namespace Report

/-- The report of a session on a grid. -/
def ofSession (s : Session) (g : Grid) : Report where
  query := s.query
  terms := s.terms
  summary := s.summary
  rows := g.rows.mapIdx fun index r =>
    { index, visible := r.visible, highlighted := r.highlightedColumns }

/-- A term in a report. -/
def termJson (t : Term) : Json :=
  .object [("sign".toList, .string t.sign.name.toList), ("fragment".toList, .string t.fragment)]

/-- A summary in a report. -/
def summaryJson (s : Summary) : Json :=
  .object [("active".toList, .bool s.active), ("total_rows".toList, .nat s.totalRows),
    ("visible_rows".toList, .nat s.visibleRows),
    ("highlighted_cells".toList, .nat s.highlightedCells)]

/-- The decision about a row in a report. -/
def rowJson (r : RowDecision) : Json :=
  .object [("index".toList, .nat r.index), ("visible".toList, .bool r.visible),
    ("highlighted".toList, .array (r.highlighted.map .nat))]

/-- A report as JSON. -/
def toJson (r : Report) : Json :=
  .object [("query".toList, .string r.query), ("terms".toList, .array (r.terms.map termJson)),
    ("summary".toList, summaryJson r.summary), ("rows".toList, .array (r.rows.map rowJson))]

end Report

end GridFilter
