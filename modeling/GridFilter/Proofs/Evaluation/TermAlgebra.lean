/-
The algebra of terms.

In general the order of the terms of a query matters: a term that reveals may bring
back what a term before it has hidden. This file says where the order does not
matter. Terms that reveal can be exchanged with each other, since all of them only
add. Terms that hide and terms that narrow can be exchanged with each other as far
as visibility goes, since all of them only take away; which of them looks at a row
first does decide what it highlights. And a term that is repeated at once finds
nothing left to do.

Both exchanges are read off a closed form for a block of terms
(`Row.applyTerms_of_reveal`, `Row.applyTerms_visible_of_not_reveal`), in which the
terms of the block stand under an `any` or an `all` and so in no order. What comes
behind the block cannot tell the difference: it reads the content of a row and its
visibility, and nothing else (`Row.applyTerms_visible_congr`).
-/
import GridFilter.Proofs.Evaluation.RowWise

set_option autoImplicit false

namespace GridFilter

/-- Whether a row that is visible stays so, given whether something was found in it. -/
def Sign.keeps : Sign → Bool → Bool
  | reveal, _ => true
  | hide, found => !found
  | narrow, found => found

namespace Row

variable {mode : MatchMode} {ignore : IgnoreSet} {m : Matcher}

theorem applyTerms_append (r : Row) (ts us : List Term) :
    r.applyTerms mode ignore (ts ++ us) =
      (r.applyTerms mode ignore ts).applyTerms mode ignore us := by
  rw [applyTerms, List.foldl_append]
  rfl

/-! ## A block of terms that reveal -/

/-- **Terms that reveal act as one.** The row is shown when one of them finds
something in it, and every cell is highlighted that one of them finds. -/
theorem applyTerms_of_reveal {ts : List Term} (reveals : ∀ t ∈ ts, t.sign = .reveal) (r : Row) :
    r.applyTerms mode ignore ts =
      { cells := r.cells.mapIdx fun column c =>
          { c with highlighted := c.highlighted ||
              ts.any fun t => c.isHit ignore (Matcher.prepare t.fragment mode).1 column }
        visible := r.visible ||
          ts.any fun t => r.found ignore (Matcher.prepare t.fragment mode).1 } := by
  induction ts using List.reverseRecOn with
  | nil =>
    refine eq_of_fields (List.ext_getElem? fun column => ?_) (by simp [applyTerms])
    rw [List.getElem?_mapIdx, applyTerms, List.foldl_nil]
    cases r.cells[column]? <;> simp
  | append_singleton ts t ih =>
    have before := ih fun u hu => reveals u (List.mem_append_left _ hu)
    have last : t.sign = .reveal := reveals t (List.mem_append_right _ List.mem_cons_self)
    rw [applyTerms_append_singleton, last]
    refine eq_of_fields (List.ext_getElem? fun column => ?_) ?_
    · rw [applySign_cells, before, List.getElem?_mapIdx, List.getElem?_mapIdx,
        List.getElem?_mapIdx]
      cases r.cells[column]? with
      | none => rfl
      | some c =>
        -- A highlight does not change whether the cell is a hit.
        simp only [Option.map_some, true_or, decide_true, Bool.true_and, List.any_append,
          List.any_cons, List.any_nil, Bool.or_false, Bool.or_assoc]
        rfl
    · rw [applySign_visible, (applyTerms_sameContent r ts).found_eq, before]
      simp only [List.any_append, List.any_cons, List.any_nil, Bool.or_false, Bool.or_assoc]

/-- Terms that reveal can be exchanged with each other. -/
theorem applyTerms_perm_of_reveal {ts us : List Term} (p : ts.Perm us)
    (reveals : ∀ t ∈ ts, t.sign = .reveal) (r : Row) :
    r.applyTerms mode ignore ts = r.applyTerms mode ignore us := by
  have reveals' : ∀ u ∈ us, u.sign = .reveal := fun u hu => reveals u (p.mem_iff.2 hu)
  rw [applyTerms_of_reveal reveals, applyTerms_of_reveal reveals']
  simp only [p.any_eq]

/-! ## A block of terms that take away -/

theorem applySign_visible_of_ne_reveal {sign : Sign} (h : sign ≠ .reveal) (r : Row) :
    (r.applySign sign ignore m).visible = (r.visible && sign.keeps (r.found ignore m)) := by
  rw [applySign_visible]
  cases sign with
  | reveal => exact absurd rfl h
  | hide | narrow => rfl

/-- **Of terms that take away, each has a veto.** The row stays visible when it was
visible and each of them keeps it. -/
theorem applyTerms_visible_of_not_reveal {ts : List Term} (takes : ∀ t ∈ ts, t.sign ≠ .reveal)
    (r : Row) :
    (r.applyTerms mode ignore ts).visible =
      (r.visible &&
        ts.all fun t => t.sign.keeps (r.found ignore (Matcher.prepare t.fragment mode).1)) := by
  induction ts using List.reverseRecOn with
  | nil => simp [applyTerms]
  | append_singleton ts t ih =>
    have before := ih fun u hu => takes u (List.mem_append_left _ hu)
    have last : t.sign ≠ .reveal := takes t (List.mem_append_right _ List.mem_cons_self)
    rw [applyTerms_append_singleton, applySign_visible_of_ne_reveal last,
      (applyTerms_sameContent r ts).found_eq, before]
    simp only [List.all_append, List.all_cons, List.all_nil, Bool.and_true, Bool.and_assoc]

/-- Terms that take away can be exchanged with each other, as far as visibility goes. -/
theorem applyTerms_visible_perm {ts us : List Term} (p : ts.Perm us)
    (takes : ∀ t ∈ ts, t.sign ≠ .reveal) (r : Row) :
    (r.applyTerms mode ignore ts).visible = (r.applyTerms mode ignore us).visible := by
  have takes' : ∀ u ∈ us, u.sign ≠ .reveal := fun u hu => takes u (p.mem_iff.2 hu)
  rw [applyTerms_visible_of_not_reveal takes, applyTerms_visible_of_not_reveal takes', p.all_eq]

/-- Highlights are not seen by later terms: rows with the same content and the same
visibility end with the same visibility. -/
theorem applyTerms_visible_congr {r s : Row} (same : r.SameContent s)
    (visible : r.visible = s.visible) (ts : List Term) :
    (r.applyTerms mode ignore ts).visible = (s.applyTerms mode ignore ts).visible := by
  induction ts using List.reverseRecOn with
  | nil => exact visible
  | append_singleton ts t ih =>
    have found : ∀ m : Matcher, (r.applyTerms mode ignore ts).found ignore m =
        (s.applyTerms mode ignore ts).found ignore m := by
      intro m
      rw [(applyTerms_sameContent r ts).found_eq, (applyTerms_sameContent s ts).found_eq,
        same.found_eq]
    rw [applyTerms_append_singleton, applyTerms_append_singleton, applySign_visible,
      applySign_visible, found, ih]

/-! ## A term that is repeated -/

/-- Only a row that was visible before is visible after a term that does not reveal. -/
theorem visible_of_applySign_visible {sign : Sign} {r : Row}
    (h : sign = .reveal ∨ (r.applySign sign ignore m).visible = true) :
    sign = .reveal ∨ r.visible = true := by
  by_cases reveals : sign = .reveal
  · exact .inl reveals
  · have after := h.resolve_left reveals
    rw [applySign_visible_of_ne_reveal reveals, Bool.and_eq_true] at after
    exact .inr after.1

/-- **A term that is repeated at once does nothing.** It looks at no more rows the
second time, and at those it has highlighted everything. -/
theorem applySign_applySign (sign : Sign) (r : Row) :
    (r.applySign sign ignore m).applySign sign ignore m = r.applySign sign ignore m := by
  refine eq_of_fields (List.ext_getElem? fun column => ?_) ?_
  · rw [applySign_cells, List.getElem?_mapIdx, applySign_cells, List.getElem?_mapIdx]
    cases r.cells[column]? with
    | none => rfl
    | some c =>
      have hit : ∀ b, ({ c with highlighted := b } : Cell).isHit ignore m column =
          c.isHit ignore m column := fun _ => rfl
      simp only [Option.map_some, hit]
      by_cases again : sign = .reveal ∨ (r.applySign sign ignore m).visible = true
      · have looked := visible_of_applySign_visible again
        simp only [again, looked, decide_true, Bool.true_and, Bool.or_assoc, Bool.or_self]
      · simp only [again, decide_false, Bool.false_and, Bool.or_false]
  · have found : (r.applySign sign ignore m).found ignore m = r.found ignore m :=
      (applySign_sameContent sign r).found_eq
    rw [applySign_visible, found, applySign_visible]
    cases sign <;> cases r.visible <;> cases r.found ignore m <;> rfl

theorem applyTerms_repeat (r : Row) (t : Term) :
    r.applyTerms mode ignore [t, t] = r.applyTerms mode ignore [t] :=
  applySign_applySign t.sign r

end Row

/-! ## Queries -/

variable {mode : MatchMode} {ignore : IgnoreSet}

/-- Queries whose terms do the same to every row that was reset do the same to every grid. -/
theorem evaluate_eq_of_terms {raw raw' : Text} {minChars : UInt64} (g : Grid)
    (long : Query.isDegenerate raw minChars = false)
    (long' : Query.isDegenerate raw' minChars = false) (no_columns : ignore.hasColumns = false)
    (alike : ∀ r : Row, (r.reset false).applyTerms mode ignore (Query.terms raw) =
      (r.reset false).applyTerms mode ignore (Query.terms raw')) :
    (evaluate g raw mode ignore minChars).grid = (evaluate g raw' mode ignore minChars).grid ∧
      (evaluate g raw mode ignore minChars).summary =
        (evaluate g raw' mode ignore minChars).summary := by
  have rows : (evaluate g raw mode ignore minChars).grid.rows =
      (evaluate g raw' mode ignore minChars).grid.rows := by
    rw [evaluate_rows_of_terms g mode long no_columns, evaluate_rows_of_terms g mode long' no_columns]
    exact List.map_congr_left fun r _ => alike r
  have grid : (evaluate g raw mode ignore minChars).grid =
      (evaluate g raw' mode ignore minChars).grid := congrArg Grid.mk rows
  refine ⟨grid, ?_⟩
  rw [evaluate_summary, evaluate_summary, grid, long, long']

/-- **Where the order of terms does not matter.** Two queries are long enough to
filter by, and no columns are ignored. If their terms differ in the order of a block
of terms that reveal, or in one term that is written twice at once, then they leave
the same grid and the same summary. If they differ in the order of a block of terms
that hide or narrow, then they leave the same rows visible. -/
theorem evaluate_term_algebra (g : Grid) (mode : MatchMode) (ignore : IgnoreSet)
    (minChars : UInt64) {raw raw' : Text} (long : Query.isDegenerate raw minChars = false)
    (long' : Query.isDegenerate raw' minChars = false) (no_columns : ignore.hasColumns = false) :
    (∀ front block block' back : List Term, Query.terms raw = front ++ block ++ back →
      Query.terms raw' = front ++ block' ++ back → block'.Perm block →
      (∀ t ∈ block, t.sign = .reveal) →
      (evaluate g raw' mode ignore minChars).grid = (evaluate g raw mode ignore minChars).grid ∧
        (evaluate g raw' mode ignore minChars).summary =
          (evaluate g raw mode ignore minChars).summary) ∧
    (∀ front block block' back : List Term, Query.terms raw = front ++ block ++ back →
      Query.terms raw' = front ++ block' ++ back → block'.Perm block →
      (∀ t ∈ block, t.sign ≠ .reveal) →
      (evaluate g raw' mode ignore minChars).grid.rows.map (·.visible) =
        (evaluate g raw mode ignore minChars).grid.rows.map (·.visible)) ∧
    (∀ (front : List Term) (t : Term) (back : List Term),
      Query.terms raw = front ++ [t] ++ back → Query.terms raw' = front ++ [t, t] ++ back →
      (evaluate g raw' mode ignore minChars).grid = (evaluate g raw mode ignore minChars).grid ∧
        (evaluate g raw' mode ignore minChars).summary =
          (evaluate g raw mode ignore minChars).summary) := by
  refine ⟨?_, ?_, ?_⟩
  · intro front block block' back hraw hraw' p reveals
    refine evaluate_eq_of_terms g long' long no_columns fun r => ?_
    have reveals' : ∀ t ∈ block', t.sign = .reveal := fun t ht => reveals t (p.mem_iff.1 ht)
    rw [hraw, hraw', Row.applyTerms_append, Row.applyTerms_append, Row.applyTerms_append,
      Row.applyTerms_append, Row.applyTerms_perm_of_reveal p reveals']
  · intro front block block' back hraw hraw' p takes
    rw [evaluate_rows_of_terms g mode long no_columns,
      evaluate_rows_of_terms g mode long' no_columns, List.map_map, List.map_map]
    refine List.map_congr_left fun r _ => ?_
    -- Behind the block the two runs differ in highlights at most.
    have takes' : ∀ t ∈ block', t.sign ≠ .reveal := fun t ht => takes t (p.mem_iff.1 ht)
    let before : Row := (r.reset false).applyTerms mode ignore front
    have visible : (before.applyTerms mode ignore block').visible =
        (before.applyTerms mode ignore block).visible :=
      Row.applyTerms_visible_perm p takes' before
    have same : (before.applyTerms mode ignore block').SameContent
        (before.applyTerms mode ignore block) :=
      (Row.applyTerms_sameContent before block').trans
        (Row.applyTerms_sameContent before block).symm
    simp only [Function.comp_apply, hraw, hraw', Row.applyTerms_append]
    exact Row.applyTerms_visible_congr same visible back
  · intro front t back hraw hraw'
    refine evaluate_eq_of_terms g long' long no_columns fun r => ?_
    rw [hraw, hraw', Row.applyTerms_append, Row.applyTerms_append, Row.applyTerms_append,
      Row.applyTerms_append, Row.applyTerms_repeat]

/-- Three cells under three terms. Which of the terms that take away comes first shows
in the highlights, but not in the visibility. -/
theorem evaluate_term_algebra_three_cells :
    let g : Grid := ⟨[{ cells := [{ text := ['a'] }, { text := ['b'] }, { text := ['c'] }] }]⟩
    let run (raw : String) := evaluate g raw.toList .findAny {} 1
    (Query.terms "+a +b -c".toList = [⟨.reveal, ['a']⟩, ⟨.reveal, ['b']⟩, ⟨.hide, ['c']⟩] ∧
      Query.terms "+b +a -c".toList = [⟨.reveal, ['b']⟩, ⟨.reveal, ['a']⟩, ⟨.hide, ['c']⟩] ∧
      (run "+b +a -c").grid = (run "+a +b -c").grid ∧
      (run "+b +a -c").summary = (run "+a +b -c").summary) ∧
    (Query.terms "a -b c".toList = [⟨.reveal, ['a']⟩, ⟨.hide, ['b']⟩, ⟨.narrow, ['c']⟩] ∧
      Query.terms "a c -b".toList = [⟨.reveal, ['a']⟩, ⟨.narrow, ['c']⟩, ⟨.hide, ['b']⟩] ∧
      (run "a c -b").grid.rows.map (·.visible) = (run "a -b c").grid.rows.map (·.visible) ∧
      (run "a c -b").grid ≠ (run "a -b c").grid) ∧
    (Query.terms "a b -c".toList = [⟨.reveal, ['a']⟩, ⟨.narrow, ['b']⟩, ⟨.hide, ['c']⟩] ∧
      Query.terms "a b b -c".toList =
        [⟨.reveal, ['a']⟩, ⟨.narrow, ['b']⟩, ⟨.narrow, ['b']⟩, ⟨.hide, ['c']⟩] ∧
      (run "a b b -c").grid = (run "a b -c").grid ∧
      (run "a b b -c").summary = (run "a b -c").summary) := by
  intro g run
  refine ⟨⟨by decide, by decide, ?_⟩, ⟨by decide, by decide, ?_, by decide⟩,
    ⟨by decide, by decide, ?_⟩⟩
  · exact (evaluate_term_algebra g .findAny {} 1 (by decide) (by decide) (by decide)).1
      [] [⟨.reveal, ['a']⟩, ⟨.reveal, ['b']⟩] [⟨.reveal, ['b']⟩, ⟨.reveal, ['a']⟩]
      [⟨.hide, ['c']⟩] (by decide) (by decide) (by decide) (by decide)
  · exact (evaluate_term_algebra g .findAny {} 1 (by decide) (by decide) (by decide)).2.1
      [⟨.reveal, ['a']⟩] [⟨.hide, ['b']⟩, ⟨.narrow, ['c']⟩] [⟨.narrow, ['c']⟩, ⟨.hide, ['b']⟩]
      [] (by decide) (by decide) (by decide) (by decide)
  · exact (evaluate_term_algebra g .findAny {} 1 (by decide) (by decide) (by decide)).2.2
      [⟨.reveal, ['a']⟩] ⟨.narrow, ['b']⟩ [⟨.hide, ['c']⟩] (by decide) (by decide)

end GridFilter
