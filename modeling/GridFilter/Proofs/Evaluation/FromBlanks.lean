/-
Taking a phrase out of nothing.

A phrase can only be taken out of rows that are visible. If the query that is there is
blank, a full stop is put in front, so that the phrase is taken out of all rows. In the
mode that reads a full stop as an expression this comes true: it is found in every row
that has something to match. In the other modes a full stop stands for itself, and the
rows without one stay hidden, whatever the phrase.

`evaluate_subtract_from_blanks` says for all modes which rows are left, and from that
for which grids these are the rows one would expect: all in which the phrase is not
found.
-/
import GridFilter.Proofs.Evaluation.Visibility
import GridFilter.Proofs.Matcher.FullStop
import GridFilter.Proofs.Query.Picked

set_option autoImplicit false

namespace GridFilter

/-! ## Which rows are left -/

/-- Of the rows of a grid, exactly those are visible afterwards that have the
property. -/
def Grid.Shows (after before : Grid) (p : Row → Prop) : Prop :=
  List.Forall₂ (fun s r => s.visible = true ↔ p r) after.rows before.rows

theorem Grid.shows_map_iff {f : Row → Row} {g : Grid} {p : Row → Prop} :
    Grid.Shows ⟨g.rows.map f⟩ g p ↔ ∀ r ∈ g.rows, ((f r).visible = true ↔ p r) := by
  rw [Shows, List.forall₂_map_left_iff, List.forall₂_same]

namespace Row

/-- The text of some cell that is not ignored has the property. -/
def HasText (ignore : IgnoreSet) (r : Row) (p : Text → Prop) : Prop :=
  ∃ (column : Nat) (c : Cell), r.cells[column]? = some c ∧ ignore.contains column c = false ∧
    p c.text

variable {mode : MatchMode} {ignore : IgnoreSet} {r : Row}

/-- One term that reveals and one that hides leave the rows in which the first is found
and the second is not. -/
theorem shownBy_reveal_hide {shown hidden : Text} :
    r.ShownBy mode ignore [⟨.reveal, shown⟩, ⟨.hide, hidden⟩] ↔
      r.Matches mode ignore ⟨.reveal, shown⟩ ∧ ¬ r.Matches mode ignore ⟨.hide, hidden⟩ := by
  have first : r.ShownBy mode ignore [⟨.reveal, shown⟩] ↔
      r.Matches mode ignore ⟨.reveal, shown⟩ := by
    rw [← List.nil_append [_], shownBy_append_singleton]
    simp [not_shownBy_nil]
  rw [← List.singleton_append, shownBy_append_singleton, first]
  simp

/-- Where a full stop is found, mode by mode. -/
theorem matches_fullStop_iff (filled : r.HasText ignore fun t => ∃ c ∈ t, c ≠ '\n') :
    r.Matches mode ignore ⟨.reveal, ['.']⟩ ↔ mode = .findFirst ∨ r.HasText ignore ('.' ∈ ·) := by
  by_cases expression : mode = .findFirst
  · rw [expression]
    refine iff_of_true ?_ (.inl rfl)
    obtain ⟨column, c, hc, seen, something⟩ := filled
    exact ⟨column, c, hc, seen, matchesFragment_fullStop_findFirst.2 something⟩
  · rw [or_iff_right expression]
    refine exists_congr fun column => exists_congr fun c => and_congr_right fun _ =>
      and_congr_right fun _ => ?_
    exact matchesFragment_fullStop_of_ne expression

end Row

/-! ## Queries -/

/-- **What is left when a phrase is taken out of a blank query.** The phrase is a single
piece, no columns are ignored, the query that is composed is long enough, and every row
has something to match. Then the rows are left in which the phrase is not found; in a
mode that looks for phrases, only those of them that hold a full stop. So the phrase is
taken out of all rows exactly when the mode reads expressions or none of the others is
without a full stop. -/
theorem evaluate_subtract_from_blanks (g : Grid) (mode : MatchMode) (ignore : IgnoreSet)
    (minChars : UInt64) {current phrase : Text} (blank : ∀ c ∈ current, Text.isBlank c = true)
    (hp : phrase.IsPiece)
    (long : Query.isDegenerate (composeQuery current phrase { subtract := true }) minChars = false)
    (no_columns : ignore.hasColumns = false)
    (filled : ∀ r ∈ g.rows, r.HasText ignore fun t => ∃ c ∈ t, c ≠ '\n') :
    let after :=
      (evaluate g (composeQuery current phrase { subtract := true }) mode ignore minChars).grid
    let unmatched := fun r : Row => ¬ r.Matches mode ignore ⟨.hide, phrase⟩
    after.Shows g (fun r =>
      (mode = .findFirst ∨ r.HasText ignore ('.' ∈ ·)) ∧ unmatched r) ∧
    (after.Shows g unmatched ↔
      mode = .findFirst ∨ ∀ r ∈ g.rows, unmatched r → r.HasText ignore ('.' ∈ ·)) := by
  intro after unmatched
  have after_eq : after = ⟨g.rows.map fun r =>
      (r.reset false).applyTerms mode ignore [⟨.reveal, ['.']⟩, ⟨.hide, phrase⟩]⟩ := by
    refine congrArg Grid.mk ?_
    rw [← terms_composeQuery_subtract_of_blanks hp blank]
    exact evaluate_rows_of_terms g mode long no_columns
  have visible : ∀ r ∈ g.rows,
      (((r.reset false).applyTerms mode ignore
        [⟨.reveal, ['.']⟩, ⟨.hide, phrase⟩]).visible = true ↔
        (mode = .findFirst ∨ r.HasText ignore ('.' ∈ ·)) ∧ unmatched r) := by
    intro r hr
    rw [(Row.outcome_applyTerms mode ignore r _).visible, Row.shownBy_reveal_hide,
      Row.matches_fullStop_iff (filled r hr)]
  rw [after_eq, Grid.shows_map_iff, Grid.shows_map_iff]
  refine ⟨visible, ?_⟩
  calc (∀ r ∈ g.rows, (((r.reset false).applyTerms mode ignore
          [⟨.reveal, ['.']⟩, ⟨.hide, phrase⟩]).visible = true ↔ unmatched r))
      ↔ ∀ r ∈ g.rows, unmatched r → mode = .findFirst ∨ r.HasText ignore ('.' ∈ ·) := by
        refine forall₂_congr fun r hr => ?_
        rw [visible r hr, and_iff_right_iff_imp]
    _ ↔ mode = .findFirst ∨ ∀ r ∈ g.rows, unmatched r → r.HasText ignore ('.' ∈ ·) := by
        by_cases expression : mode = .findFirst <;> simp [expression]

/-- A row with a full stop and a row with the phrase: nothing is missing. -/
theorem evaluate_subtract_from_blanks_two_rows :
    let g : Grid := ⟨[{ cells := [{ text := "a.c".toList }] }, { cells := [{ text := ['b'] }] }]⟩
    let after := (evaluate g (composeQuery [' '] ['b'] { subtract := true }) .findAny {} 1).grid
    Text.IsPiece ['b'] ∧
      Query.isDegenerate (composeQuery [' '] ['b'] { subtract := true }) 1 = false ∧
      (∀ r ∈ g.rows, r.HasText {} fun t => ∃ c ∈ t, c ≠ '\n') ∧
      after.Shows g fun r => ¬ r.Matches .findAny {} ⟨.hide, ['b']⟩ := by
  intro g after
  have piece : Text.IsPiece ['b'] := .singleton (by decide)
  have filled : ∀ r ∈ g.rows, r.HasText {} fun t => ∃ c ∈ t, c ≠ '\n' := by
    intro r hr
    rcases List.mem_cons.1 hr with rfl | hr
    · exact ⟨0, _, rfl, rfl, 'a', by decide, by decide⟩
    · rw [List.mem_singleton.1 hr]
      exact ⟨0, _, rfl, rfl, 'b', by decide, by decide⟩
  have stopped : ∀ r ∈ g.rows, ¬ r.Matches .findAny {} ⟨.hide, ['b']⟩ →
      r.HasText {} ('.' ∈ ·) := by
    intro r hr unmatched
    rcases List.mem_cons.1 hr with rfl | hr
    · exact ⟨0, _, rfl, rfl, by decide⟩
    · rw [List.mem_singleton.1 hr, Row.matches_iff_found] at unmatched
      exact absurd (by decide) unmatched
  have blank : ∀ c ∈ [' '], Text.isBlank c = true := List.forall_mem_singleton.2 rfl
  obtain ⟨_, shows⟩ := @evaluate_subtract_from_blanks g .findAny {} 1 [' '] ['b'] blank piece
    (by decide) (by decide) filled
  exact ⟨piece, by decide, filled, shows.2 (.inr stopped)⟩

/-- In a mode that looks for phrases, a row that holds neither the phrase nor a full stop
is lost. -/
theorem evaluate_subtract_from_blanks_loses_row :
    let g : Grid := ⟨[{ cells := [{ text := ['a'] }] }, { cells := [{ text := ['b'] }] }]⟩
    let after := (evaluate g (composeQuery [] ['b'] { subtract := true }) .findAny {} 1).grid
    Text.IsPiece ['b'] ∧
      Query.isDegenerate (composeQuery [] ['b'] { subtract := true }) 1 = false ∧
      (∀ r ∈ g.rows, r.HasText {} fun t => ∃ c ∈ t, c ≠ '\n') ∧
      ¬ after.Shows g fun r => ¬ r.Matches .findAny {} ⟨.hide, ['b']⟩ := by
  intro g after
  refine ⟨.singleton (by decide), by decide, fun r hr => ?_, fun shows => ?_⟩
  · rcases List.mem_cons.1 hr with rfl | hr
    · exact ⟨0, _, rfl, rfl, 'a', by decide, by decide⟩
    · rw [List.mem_singleton.1 hr]
      exact ⟨0, _, rfl, rfl, 'b', by decide, by decide⟩
  · have after_eq : after = g.reset false := by decide
    rw [after_eq] at shows
    obtain ⟨first, _⟩ := List.forall₂_cons.1 shows
    have unmatched : ¬ Row.Matches .findAny {} { cells := [{ text := ['a'] }] }
        ⟨.hide, ['b']⟩ := by
      rw [Row.matches_iff_found]
      decide
    exact absurd (first.2 unmatched) (by decide)

end GridFilter
