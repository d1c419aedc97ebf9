/-
What a query shows and highlights, said without running it.

The terms of a query are applied one after the other, and each sees the rows that
the ones before it left visible. Yet the outcome for a row can be read off the
terms at once. A row is shown when some term reveals it and no later term takes
that back: every later term that hides does not match it, and every later term
that narrows does. A cell is highlighted when some term matches it that looked at
its row, and a term looks at a row when it reveals or when the terms before it
show the row.

The second sentence speaks of visibility between two terms, which the finished
grid no longer holds. The induction therefore runs over the terms from the right
and carries both halves at once (`Row.Outcome`): the step for highlights needs the
visibility half for the terms before.
-/
import GridFilter.Proofs.Evaluation.RowWise

set_option autoImplicit false

namespace GridFilter

/-! ## The closed form -/

namespace Row

/-- Some cell of the row that is not ignored matches the fragment of the term. -/
def Matches (mode : MatchMode) (ignore : IgnoreSet) (r : Row) (t : Term) : Prop :=
  ∃ (column : Nat) (c : Cell), r.cells[column]? = some c ∧ ignore.contains column c = false ∧
    matchesFragment c.text t.fragment mode = true

/-- Some term reveals the row, and no later term takes it away again. -/
def ShownBy (mode : MatchMode) (ignore : IgnoreSet) (r : Row) (ts : List Term) : Prop :=
  ∃ (k : Nat) (t : Term), ts[k]? = some t ∧ t.sign = .reveal ∧ r.Matches mode ignore t ∧
    ∀ (j : Nat) (u : Term), k < j → ts[j]? = some u →
      (u.sign = .hide → ¬ r.Matches mode ignore u) ∧
      (u.sign = .narrow → r.Matches mode ignore u)

/-- The cell is not ignored, and some term matches it that reveals or that comes
when the terms before it show the row. -/
def HighlightedBy (mode : MatchMode) (ignore : IgnoreSet) (r : Row) (ts : List Term)
    (column : Nat) (c : Cell) : Prop :=
  ignore.contains column c = false ∧
    ∃ (k : Nat) (t : Term), ts[k]? = some t ∧ matchesFragment c.text t.fragment mode = true ∧
      (t.sign = .reveal ∨ r.ShownBy mode ignore (ts.take k))

end Row

/-! ## One term more -/

/-- What stands in a list that grew at the end. -/
private theorem getElem?_append_singleton_eq_some {α : Type} {xs : List α} {x y : α} {k : Nat} :
    (xs ++ [x])[k]? = some y ↔ xs[k]? = some y ∨ k = xs.length ∧ x = y := by
  rcases Nat.lt_trichotomy k xs.length with h | rfl | h
  · rw [List.getElem?_append_left h, or_iff_left fun e => absurd e.1 (Nat.ne_of_lt h)]
  · simp
  · rw [List.getElem?_append_right (Nat.le_of_lt h), List.getElem?_eq_none (Nat.le_of_lt h),
      List.getElem?_eq_none (by simp; omega)]
    simp [Nat.ne_of_gt h]

namespace Row

variable {mode : MatchMode} {ignore : IgnoreSet} {r : Row}

theorem not_shownBy_nil : ¬ r.ShownBy mode ignore [] := by
  rintro ⟨k, t, hk, _⟩
  simp at hk

/-- The last term reveals the row, or it leaves it where the others showed it. -/
theorem shownBy_append_singleton {ts : List Term} {t : Term} :
    r.ShownBy mode ignore (ts ++ [t]) ↔
      (t.sign = .reveal ∧ r.Matches mode ignore t) ∨
      (r.ShownBy mode ignore ts ∧ (t.sign = .hide → ¬ r.Matches mode ignore t) ∧
        (t.sign = .narrow → r.Matches mode ignore t)) := by
  constructor
  · rintro ⟨k, u, hk, hs, hm, later⟩
    rcases getElem?_append_singleton_eq_some.1 hk with hk | ⟨rfl, rfl⟩
    · have hlt : k < ts.length := (List.getElem?_eq_some_iff.1 hk).1
      refine .inr ⟨⟨k, u, hk, hs, hm, fun j v hj hv => ?_⟩, ?_⟩
      · exact later j v hj (getElem?_append_singleton_eq_some.2 (.inl hv))
      · exact later ts.length t hlt (getElem?_append_singleton_eq_some.2 (.inr ⟨rfl, rfl⟩))
    · exact .inl ⟨hs, hm⟩
  · rintro (⟨hs, hm⟩ | ⟨⟨k, u, hk, hs, hm, later⟩, last⟩)
    · refine ⟨ts.length, t, by simp, hs, hm, fun j v hj hv => ?_⟩
      have hlt := (List.getElem?_eq_some_iff.1 hv).1
      rw [List.length_append, List.length_singleton] at hlt
      omega
    · refine ⟨k, u, getElem?_append_singleton_eq_some.2 (.inl hk), hs, hm, fun j v hj hv => ?_⟩
      rcases getElem?_append_singleton_eq_some.1 hv with hv | ⟨_, rfl⟩
      · exact later j v hj hv
      · exact last

theorem not_highlightedBy_nil {column : Nat} {c : Cell} :
    ¬ r.HighlightedBy mode ignore [] column c := by
  rintro ⟨_, k, t, hk, _⟩
  simp at hk

/-- The last term matches the cell and looks at its row, or the cell was
highlighted by the others. -/
theorem highlightedBy_append_singleton {ts : List Term} {t : Term} {column : Nat} {c : Cell} :
    r.HighlightedBy mode ignore (ts ++ [t]) column c ↔
      r.HighlightedBy mode ignore ts column c ∨
      (ignore.contains column c = false ∧ matchesFragment c.text t.fragment mode = true ∧
        (t.sign = .reveal ∨ r.ShownBy mode ignore ts)) := by
  constructor
  · rintro ⟨hi, k, u, hk, hm, looked⟩
    rcases getElem?_append_singleton_eq_some.1 hk with hk | ⟨rfl, rfl⟩
    · have hlt : k < ts.length := (List.getElem?_eq_some_iff.1 hk).1
      rw [List.take_append_of_le_length (Nat.le_of_lt hlt)] at looked
      exact .inl ⟨hi, k, u, hk, hm, looked⟩
    · rw [List.take_left] at looked
      exact .inr ⟨hi, hm, looked⟩
  · rintro (⟨hi, k, u, hk, hm, looked⟩ | ⟨hi, hm, looked⟩)
    · have hlt : k < ts.length := (List.getElem?_eq_some_iff.1 hk).1
      refine ⟨hi, k, u, getElem?_append_singleton_eq_some.2 (.inl hk), hm, ?_⟩
      rwa [List.take_append_of_le_length (Nat.le_of_lt hlt)]
    · refine ⟨hi, ts.length, t, by simp, hm, ?_⟩
      rwa [List.take_left]

/-! ## The terms do what the closed form says -/

theorem isHit_eq_true_iff {fragment : Text} {column : Nat} {c : Cell} :
    c.isHit ignore (Matcher.prepare fragment mode).1 column = true ↔
      ignore.contains column c = false ∧ matchesFragment c.text fragment mode = true := by
  rw [Cell.isHit, Bool.and_eq_true, Bool.not_eq_true']
  rfl

theorem matches_iff_found {t : Term} :
    r.Matches mode ignore t ↔ r.found ignore (Matcher.prepare t.fragment mode).1 = true := by
  simp only [Matches, found_eq_true_iff, isHit_eq_true_iff]

/-- The row `s` has the flags that the closed form gives for `r`. -/
structure Outcome (mode : MatchMode) (ignore : IgnoreSet) (r : Row) (ts : List Term)
    (s : Row) : Prop where
  visible : s.visible = true ↔ r.ShownBy mode ignore ts
  highlighted : ∀ (column : Nat) (c d : Cell),
    r.cells[column]? = some c → s.cells[column]? = some d →
    (d.highlighted = true ↔ r.HighlightedBy mode ignore ts column c)

/-- A row that was reset has the flags that no terms give it. -/
theorem outcome_reset (r : Row) : r.Outcome mode ignore [] (r.reset false) where
  visible := iff_of_false (by simp [reset]) not_shownBy_nil
  highlighted column c d _ hd := by
    refine iff_of_false ?_ not_highlightedBy_nil
    simp only [reset, List.getElem?_map, Option.map_eq_some_iff] at hd
    obtain ⟨_, _, rfl⟩ := hd
    simp

/-- One term takes the flags for some terms to the flags for one term more. -/
theorem Outcome.applySign {ts : List Term} {s : Row} (h : r.Outcome mode ignore ts s)
    (same : s.SameContent r) (t : Term) :
    r.Outcome mode ignore (ts ++ [t])
      (s.applySign t.sign ignore (Matcher.prepare t.fragment mode).1) where
  visible := by
    rw [shownBy_append_singleton, applySign_visible, found, same.hits_eq, ← found, ← h.visible,
      matches_iff_found]
    cases t.sign <;> simp [or_comm]
  highlighted column c d hc hd := by
    obtain ⟨e, he, hce⟩ := same.symm.getElem? hc
    rw [applySign_cells, List.getElem?_mapIdx, he, Option.map_some, Option.some.injEq] at hd
    subst hd
    rw [highlightedBy_append_singleton, ← h.highlighted column c e hc he, ← h.visible]
    simp only [Bool.or_eq_true, Bool.and_eq_true, decide_eq_true_eq, ← hce.isHit_eq,
      isHit_eq_true_iff]
    tauto

/-- **What the terms leave of a row is what the closed form says.** -/
theorem outcome_applyTerms (mode : MatchMode) (ignore : IgnoreSet) (r : Row) (ts : List Term) :
    r.Outcome mode ignore ts ((r.reset false).applyTerms mode ignore ts) := by
  induction ts using List.reverseRecOn with
  | nil => exact outcome_reset r
  | append_singleton ts t ih =>
    rw [applyTerms_append_singleton]
    exact ih.applySign ((applyTerms_sameContent _ ts).trans (r.reset_sameContent false)) t

end Row

/-- **The outcome of an evaluation, without running it.** The query is long enough
to filter by, and no columns are ignored, so its terms are applied. Every row is
still there with its content; it is visible exactly when the terms show it, and
its cells are highlighted exactly when the terms highlight them. -/
theorem evaluate_closed_form (g : Grid) (raw : Text) (mode : MatchMode) (ignore : IgnoreSet)
    (minChars : UInt64) (long : Query.isDegenerate raw minChars = false)
    (no_columns : ignore.hasColumns = false) :
    let after := (evaluate g raw mode ignore minChars).grid
    after.rows.length = g.rows.length ∧
    ∀ (i : Nat) (r : Row), g.rows[i]? = some r →
      ∃ s, after.rows[i]? = some s ∧ s.SameContent r ∧
        (s.visible = true ↔ r.ShownBy mode ignore (Query.terms raw)) ∧
        ∀ (column : Nat) (c : Cell), r.cells[column]? = some c →
          ∃ d, s.cells[column]? = some d ∧
            (d.highlighted = true ↔ r.HighlightedBy mode ignore (Query.terms raw) column c) := by
  intro after
  have after_eq := evaluate_rows_of_terms g mode long no_columns
  refine ⟨by rw [after_eq, List.length_map], fun i r hr => ?_⟩
  have outcome := Row.outcome_applyTerms mode ignore r (Query.terms raw)
  have same : ((r.reset false).applyTerms mode ignore (Query.terms raw)).SameContent r :=
    (Row.applyTerms_sameContent _ _).trans (r.reset_sameContent false)
  refine ⟨_, by rw [after_eq, List.getElem?_map, hr]; rfl, same, outcome.visible, ?_⟩
  intro column c hc
  obtain ⟨d, hd, _⟩ := same.symm.getElem? hc
  exact ⟨d, hd, outcome.highlighted column c d hc hd⟩

/-- A row that one term reveals and the next one hides, next to an ignored cell. -/
theorem evaluate_closed_form_reveal_hide :
    Query.isDegenerate ['+', 'a', ' ', '-', 'b'] 1 = false ∧
    IgnoreSet.hasColumns { tag := some ['n'] } = false ∧
    ∃ s, (evaluate ⟨[{ cells := [{ text := ['a', 'b'] }, { text := ['b'], tags := [['n']] }] }]⟩
        ['+', 'a', ' ', '-', 'b'] .findAny { tag := some ['n'] } 1).grid.rows[0]? = some s ∧
      (s.visible = true ↔
        Row.ShownBy .findAny { tag := some ['n'] }
          { cells := [{ text := ['a', 'b'] }, { text := ['b'], tags := [['n']] }] }
          [⟨.reveal, ['a']⟩, ⟨.hide, ['b']⟩]) := by
  refine ⟨by decide, by decide, ?_⟩
  obtain ⟨_, rows⟩ := evaluate_closed_form
    ⟨[{ cells := [{ text := ['a', 'b'] }, { text := ['b'], tags := [['n']] }] }]⟩
    ['+', 'a', ' ', '-', 'b'] .findAny { tag := some ['n'] } 1 (by decide) (by decide)
  obtain ⟨s, hs, _, visible, _⟩ := rows 0 _ rfl
  exact ⟨s, hs, visible⟩

end GridFilter
