/-
Matchers that answer alike.

An evaluation asks a matcher one thing only, whether it matches the text of a cell that
is not ignored. Two matchers may be quite different expressions; as long as they give
the same answers for these texts, a row comes out the same (`applySign_congr`), and if
what came up while they were made ready is the same as well, so is the log of a whole
run of terms (`Grid.applyTerms_congr`).

This settles where the two modes that look for phrases can be told apart. They differ
for a fragment of several phrases, and for no other. A term holds a fragment of one
piece, because a query is cut into terms where a fragment is cut into phrases; so an
evaluation that takes the query apart is the same in both modes, to the last line of its
log. Matched as a whole, a query may have several phrases, and then the modes differ.

For queries that are matched as a whole there is also the converse: two of them leave the
same grid only if they match the same texts, since what such a query highlights is all
that it matches (`evaluate_whole_grid_eq_iff`).
-/
import GridFilter.Proofs.Evaluation.RowWise
import GridFilter.Proofs.Matcher.Phrases
import GridFilter.Proofs.Query.Written

set_option autoImplicit false

namespace GridFilter

/-! ## One row -/

namespace Row

variable {ignore : IgnoreSet} {m m' : Matcher} {r : Row}

/-- The cells of a row are hit alike exactly when the matchers agree about the texts of
those that are not ignored. -/
theorem hits_eq_iff :
    r.hits ignore m = r.hits ignore m' ↔
      ∀ (column : Nat) (c : Cell), r.cells[column]? = some c →
        ignore.contains column c = false → m.isMatch c.text = m'.isMatch c.text := by
  constructor
  · intro same column c hc seen
    have at_column := congrArg (·[column]?) same
    simp only [getElem?_hits, hc, Option.map_some, Option.some.injEq] at at_column
    simpa [Cell.isHit, seen] using at_column
  · intro agree
    refine List.ext_getElem? fun column => ?_
    rw [getElem?_hits, getElem?_hits]
    refine Option.map_congr fun c hc => ?_
    by_cases kept : ignore.contains column c = true
    · simp [Cell.isHit, kept] -- no hit for any matcher
    · have seen : ignore.contains column c = false := Bool.eq_false_iff.2 kept
      rw [Cell.isHit, Cell.isHit, agree column c hc seen]

/-- A matcher is seen through its hits only. -/
theorem applySign_congr (same : r.hits ignore m = r.hits ignore m') (sign : Sign) :
    r.applySign sign ignore m = r.applySign sign ignore m' := by
  rw [applySign, applySign, same]

theorem counts_congr (same : r.hits ignore m = r.hits ignore m') (sign : Sign) :
    r.counts sign ignore m = r.counts sign ignore m' := by
  simp only [counts, same]

end Row

/-! ## All rows -/

/-- Two fragments were made ready alike: the same texts match, and the same came up on
the way. -/
structure Matcher.SameAnswers (p q : Matcher × List LogLine) : Prop where
  isMatch : p.1.isMatch = q.1.isMatch
  log : p.2 = q.2

namespace Grid

variable {mode mode' : MatchMode} {ignore : IgnoreSet}

theorem applyTerm_congr {t : Term} (same : Matcher.SameAnswers (Matcher.prepare t.fragment mode)
    (Matcher.prepare t.fragment mode')) (g : Grid) :
    g.applyTerm mode ignore t = g.applyTerm mode' ignore t := by
  have hits (r : Row) : r.hits ignore (Matcher.prepare t.fragment mode).1 =
      r.hits ignore (Matcher.prepare t.fragment mode').1 :=
    Row.hits_eq_iff.2 fun column c _ _ => congrFun same.isMatch c.text
  have signed : g.applySign t.sign ignore (Matcher.prepare t.fragment mode).1 =
      g.applySign t.sign ignore (Matcher.prepare t.fragment mode').1 :=
    congrArg Grid.mk (List.map_congr_left fun r _ => Row.applySign_congr (hits r) t.sign)
  have counted : g.countChanges t.sign ignore (Matcher.prepare t.fragment mode).1 =
      g.countChanges t.sign ignore (Matcher.prepare t.fragment mode').1 := by
    rw [countChanges_eq_ofNat, countChanges_eq_ofNat,
      funext fun r => Row.counts_congr (hits r) t.sign]
  simp only [applyTerm, signed, counted, same.log]

/-- **A run of terms sees a mode only through the answers for its fragments.** -/
theorem applyTerms_congr {ts : List Term} (same : ∀ t ∈ ts, Matcher.SameAnswers
    (Matcher.prepare t.fragment mode) (Matcher.prepare t.fragment mode')) (g : Grid) :
    g.applyTerms mode ignore ts = g.applyTerms mode' ignore ts := by
  induction ts generalizing g with
  | nil => rfl
  | cons t ts ih =>
    obtain ⟨first, rest⟩ := List.forall_mem_cons.1 same
    simp only [applyTerms, applyTerm_congr first, ih rest]

end Grid

/-! ## The two modes that look for phrases -/

/-- A fragment of one piece is made ready alike in both modes. -/
theorem Matcher.sameAnswers_findAny_findAll {fragment : Text} (hp : fragment.IsPiece) :
    SameAnswers (prepare fragment .findAny) (prepare fragment .findAll) where
  isMatch := isMatch_prepare_findAny hp
  log := prepare_log_findAny fragment

/-- **Applied term by term, a query does not tell the two modes apart.** If no columns are
ignored, asking for any phrase and asking for all leave the same grid, with the same
summary and the same log. -/
theorem evaluate_findAny_eq_findAll (g : Grid) (raw : Text) (minChars : UInt64)
    {ignore : IgnoreSet} (no_columns : ignore.hasColumns = false) :
    evaluate g raw .findAny ignore minChars = evaluate g raw .findAll ignore minChars := by
  have apart : ∀ k : Grid, k.applyTerms .findAny ignore (Query.terms raw) =
      k.applyTerms .findAll ignore (Query.terms raw) := by
    intro k
    refine Grid.applyTerms_congr (fun t ht => ?_) k
    -- The parser has cut the fragment wherever the matcher would.
    exact Matcher.sameAnswers_findAny_findAll (Query.expressible_of_mem_terms ht).isPiece
  simp only [evaluate, evaluateParsed, ParsedQuery.ofText, no_columns, Bool.false_eq_true,
    if_false, apart]

/-- A literal, a comma, and a cell that is kept out by its tag. -/
theorem evaluate_findAny_eq_findAll_tagged :
    let g : Grid :=
      ⟨[{ cells := [{ text := ['x'] }, { text := ['y'], tags := [['n']] }] },
        { cells := [{ text := ['x', ' ', 'y'] }] }]⟩
    IgnoreSet.hasColumns { tag := some ['n'] } = false ∧
      evaluate g "+x,y -/z/".toList .findAny { tag := some ['n'] } 1 =
        evaluate g "+x,y -/z/".toList .findAll { tag := some ['n'] } 1 := by
  intro g
  exact ⟨by decide, evaluate_findAny_eq_findAll g _ 1 (by decide)⟩

/-- Matched as a whole, the same query has two phrases. -/
example :
    let g : Grid := ⟨[{ cells := [{ text := ['x'] }, { text := ['y'] }] }]⟩
    let columns := ColumnSet.empty.insert 1
    (evaluate g "x,y".toList .findAny { columns } 1).grid ≠
      (evaluate g "x,y".toList .findAll { columns } 1).grid := by
  decide

/-! ## Queries that are matched as a whole -/

/-- The text of some cell of the grid that is not ignored. -/
def Grid.Seen (ignore : IgnoreSet) (g : Grid) (t : Text) : Prop :=
  ∃ r ∈ g.rows, ∃ (column : Nat) (c : Cell), r.cells[column]? = some c ∧
    ignore.contains column c = false ∧ c.text = t

variable {mode : MatchMode} {ignore : IgnoreSet}

/-- What a term that reveals highlights in a row that was reset is what it hits. -/
theorem Row.highlighted_applySign_reset {m : Matcher} (r : Row) :
    ((r.reset false).applySign .reveal ignore m).cells.map (·.highlighted) = r.hits ignore m := by
  refine List.ext_getElem? fun column => ?_
  rw [List.getElem?_map, applySign_cells, List.getElem?_mapIdx, getElem?_hits, reset,
    List.getElem?_map]
  cases r.cells[column]? with
  | none => rfl
  | some c => simp [Cell.isHit, IgnoreSet.contains]

/-- **Two whole queries leave the same grid exactly when they match the same texts** of
those that are seen. -/
theorem evaluate_whole_grid_eq_iff {raw raw' : Text} {minChars : UInt64} (g : Grid)
    (long : Query.isDegenerate raw minChars = false)
    (long' : Query.isDegenerate raw' minChars = false) (columns : ignore.hasColumns = true) :
    (evaluate g raw mode ignore minChars).grid = (evaluate g raw' mode ignore minChars).grid ↔
      ∀ t, g.Seen ignore t → matchesFragment t raw mode = matchesFragment t raw' mode := by
  rw [Grid.mk.injEq, evaluate_rows_of_whole g mode long columns,
    evaluate_rows_of_whole g mode long' columns, List.map_inj_left]
  constructor
  · rintro same t ⟨r, hr, column, c, hc, seen, rfl⟩
    have hits : r.hits ignore (Matcher.prepare raw mode).1 =
        r.hits ignore (Matcher.prepare raw' mode).1 := by
      rw [← Row.highlighted_applySign_reset, same r hr, Row.highlighted_applySign_reset]
    exact Row.hits_eq_iff.1 hits column c hc seen
  · intro agree r hr
    have hits : r.hits ignore (Matcher.prepare raw mode).1 =
        r.hits ignore (Matcher.prepare raw' mode).1 :=
      Row.hits_eq_iff.2 fun column c hc seen => agree c.text ⟨r, hr, column, c, hc, seen, rfl⟩
    refine Row.applySign_congr ?_ .reveal
    rw [(r.reset_sameContent false).hits_eq, hits, (r.reset_sameContent false).hits_eq]

end GridFilter
