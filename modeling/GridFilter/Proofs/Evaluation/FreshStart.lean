/-
An evaluation starts afresh.

Terms that hide and terms that narrow read the visibility of a row, and
highlights only ever gain, so a flag that an earlier evaluation left would be seen
if it were still there. It is not: on each of its paths, the one for short
queries, the one for whole queries and the one for terms, an evaluation resets
the grid before it reads a flag, and a reset makes any two grids equal that have
the same content (`Grid.sameContent_iff_reset`). Grids are left with their content
by every evaluation, so a history of evaluations cannot be told from none.
-/
import GridFilter.Proofs.Evaluation.RowWise

set_option autoImplicit false

namespace GridFilter

/-- All flags that a grid comes with are forgotten: what an evaluation does is
decided by the content. -/
theorem evaluateParsed_congr {g h : Grid} (same : g.SameContent h) (q : ParsedQuery)
    (mode : MatchMode) (ignore : IgnoreSet) (minChars : UInt64) :
    evaluateParsed g q mode ignore minChars = evaluateParsed h q mode ignore minChars := by
  have shown := (Grid.sameContent_iff_reset true).1 same
  have hidden := (Grid.sameContent_iff_reset false).1 same
  rw [evaluateParsed, evaluateParsed, shown, hidden]

/-! ## Histories -/

/-- One call of the engine: everything it is given but the grid. -/
structure FilterCall where
  query : ParsedQuery
  mode : MatchMode
  ignore : IgnoreSet
  minChars : UInt64

/-- Evaluates the query of the call. -/
def FilterCall.run (call : FilterCall) (g : Grid) : Evaluation :=
  evaluateParsed g call.query call.mode call.ignore call.minChars

/-- The grid after a sequence of calls, each on what the one before it left. -/
def Grid.afterCalls (g : Grid) (calls : List FilterCall) : Grid :=
  calls.foldl (fun g call => (call.run g).grid) g

theorem Grid.afterCalls_sameContent (g : Grid) (calls : List FilterCall) :
    (g.afterCalls calls).SameContent g := by
  induction calls generalizing g with
  | nil => exact .refl g
  | cons call calls ih =>
    exact (ih (call.run g).grid).trans (evaluateParsed_sameContent g call.query call.minChars)

/-- **An evaluation does not depend on the flags it finds, and writes nothing but
flags.** Grids with the same content are evaluated to the same grid, with the same
summary and the same log; that grid has the content of the one that was given. So
no sequence of other evaluations before it makes a difference, and a second
evaluation changes nothing. -/
theorem evaluateParsed_history_independent (q : ParsedQuery) (mode : MatchMode)
    (ignore : IgnoreSet) (minChars : UInt64) :
    (∀ g h : Grid, g.SameContent h →
      evaluateParsed g q mode ignore minChars = evaluateParsed h q mode ignore minChars) ∧
    (∀ g : Grid, (evaluateParsed g q mode ignore minChars).grid.SameContent g) ∧
    (∀ (g : Grid) (calls : List FilterCall),
      evaluateParsed (g.afterCalls calls) q mode ignore minChars =
        evaluateParsed g q mode ignore minChars) ∧
    (∀ g : Grid,
      evaluateParsed (evaluateParsed g q mode ignore minChars).grid q mode ignore minChars =
        evaluateParsed g q mode ignore minChars) := by
  refine ⟨fun g h same => ?_, fun g => ?_, fun g calls => ?_, fun g => ?_⟩
  · exact evaluateParsed_congr same q mode ignore minChars
  · exact evaluateParsed_sameContent g q minChars
  · exact evaluateParsed_congr (g.afterCalls_sameContent calls) q mode ignore minChars
  · exact evaluateParsed_congr (evaluateParsed_sameContent g q minChars) q mode ignore minChars

end GridFilter
