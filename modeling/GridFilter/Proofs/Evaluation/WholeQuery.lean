/-
Whole queries and queries of terms.

When columns are ignored, a query is not taken apart: it is one fragment, matched
as a whole. The same cells can be kept out of matching by the host's mark on them
(`Grid.withhold`), and then the query is taken apart. The two ways are written
apart, and in general they differ, since signs mean nothing to the first one. This
file says where they do the same.

They do so where the terms all reveal and, text by text, the whole fragment matches
exactly if the fragment of some term does (`evaluate_flags_of_union`). That is so for
a query of one piece without a sign, in every mode; and in the mode that asks for
any phrase it is so for every query, once each of its pieces is given a plus, as far
as regular-expression literals stay out of it.

The two grids differ in the host's marks, so they are compared by their flags.
-/
import GridFilter.Proofs.Evaluation.IgnoredCells
import GridFilter.Proofs.Evaluation.TermAlgebra
import GridFilter.Proofs.Matcher.Phrases
import GridFilter.Proofs.Query.Written

set_option autoImplicit false

namespace GridFilter

/-! ## Marks in the place of columns -/

/-- The cell of a column, marked by the host if the column is one of the set. -/
def Cell.withhold (columns : ColumnSet) (column : Nat) (c : Cell) : Cell :=
  { c with ignored := c.ignored || columns.toList.any (·.toNat == column) }

/-- The row with the cells of some columns marked by the host. -/
def Row.withhold (columns : ColumnSet) (r : Row) : Row :=
  { r with cells := r.cells.mapIdx (Cell.withhold columns) }

/-- The grid with the cells of some columns marked by the host. -/
def Grid.withhold (columns : ColumnSet) (g : Grid) : Grid := ⟨g.rows.map (Row.withhold columns)⟩

variable {columns : ColumnSet} {tag : Option Text} {mode : MatchMode}

/-- A mark keeps a cell out of matching as its column would. -/
theorem Cell.contains_withhold (column : Nat) (c : Cell) :
    IgnoreSet.contains { tag } column (c.withhold columns column) =
      IgnoreSet.contains { columns, tag } column c := by
  simp [IgnoreSet.contains, withhold, ColumnSet.empty]

/-- Where a fragment matches exactly if that of some term does, its hits are those of
the terms. -/
theorem Cell.isHit_withhold {m : Matcher} {ts : List Term}
    (union : ∀ t : Text, m.isMatch t = ts.any fun u => matchesFragment t u.fragment mode)
    (column : Nat) (c : Cell) :
    (ts.any fun u => (c.withhold columns column).isHit { tag }
        (Matcher.prepare u.fragment mode).1 column) =
      c.isHit { columns, tag } m column := by
  simp only [isHit, contains_withhold, union]
  cases IgnoreSet.contains { columns, tag } column c with
  | true => simp
  | false => rfl

namespace Row

theorem getElem?_withhold (r : Row) (column : Nat) :
    (r.withhold columns).cells[column]? = r.cells[column]?.map (Cell.withhold columns column) :=
  List.getElem?_mapIdx

variable {m : Matcher} {ts : List Term}

theorem found_withhold
    (union : ∀ t : Text, m.isMatch t = ts.any fun u => matchesFragment t u.fragment mode)
    (r : Row) :
    (ts.any fun u => (r.withhold columns).found { tag } (Matcher.prepare u.fragment mode).1) =
      r.found { columns, tag } m := by
  rw [Bool.eq_iff_iff, List.any_eq_true, found_eq_true_iff]
  constructor
  · rintro ⟨u, hu, h⟩
    obtain ⟨column, d, hd, hit⟩ := found_eq_true_iff.1 h
    rw [getElem?_withhold, Option.map_eq_some_iff] at hd
    obtain ⟨c, hc, rfl⟩ := hd
    refine ⟨column, c, hc, ?_⟩
    rw [← Cell.isHit_withhold union]
    exact List.any_eq_true.2 ⟨u, hu, hit⟩
  · rintro ⟨column, c, hc, hit⟩
    rw [← Cell.isHit_withhold union, List.any_eq_true] at hit
    obtain ⟨u, hu, hit⟩ := hit
    refine ⟨u, hu, found_eq_true_iff.2 ⟨column, c.withhold columns column, ?_, hit⟩⟩
    rw [getElem?_withhold, hc, Option.map_some]

/-- **On one row, both ways leave the same flags.** The fragment is matched once, under
the columns; the terms are matched one after the other, under the marks. -/
theorem flags_withhold (reveals : ∀ t ∈ ts, t.sign = .reveal)
    (union : ∀ t : Text, m.isMatch t = ts.any fun u => matchesFragment t u.fragment mode)
    (r : Row) :
    let whole := (r.reset false).applySign .reveal { columns, tag } m
    let apart := ((r.withhold columns).reset false).applyTerms mode { tag } ts
    whole.visible = apart.visible ∧
      whole.cells.map (·.highlighted) = apart.cells.map (·.highlighted) := by
  intro whole apart
  have apart_eq := @applyTerms_of_reveal mode { tag } ts reveals ((r.withhold columns).reset false)
  constructor
  · have whole_found : (r.reset false).found { columns, tag } m = r.found { columns, tag } m :=
      (r.reset_sameContent false).found_eq
    have apart_found : ∀ n : Matcher, ((r.withhold columns).reset false).found { tag } n =
        (r.withhold columns).found { tag } n := fun n =>
      ((r.withhold columns).reset_sameContent false).found_eq
    calc whole.visible = r.found { columns, tag } m := by
          rw [applySign_visible, whole_found]
          rfl
      _ = ts.any fun u => (r.withhold columns).found { tag } (Matcher.prepare u.fragment mode).1 :=
          (found_withhold union r).symm
      _ = apart.visible := by
          rw [show apart = _ from apart_eq]
          simp only [apart_found]
          rfl
  · refine List.ext_getElem? fun column => ?_
    rw [show apart = _ from apart_eq, List.getElem?_map, applySign_cells, List.getElem?_map]
    simp only [List.getElem?_mapIdx, reset, List.getElem?_map, getElem?_withhold]
    cases r.cells[column]? with
    | none => rfl
    | some c =>
      -- Both cells were reset, so each is highlighted exactly if it is a hit.
      exact congrArg some (Cell.isHit_withhold union column c).symm

end Row

/-! ## Both ways on a grid -/

/-- **Where a query means the same whole and apart.** The terms of `raw` all reveal,
and a text matches `whole` exactly if it matches the fragment of some term. -/
theorem evaluate_flags_of_union {whole raw : Text} {minChars : UInt64} (g : Grid)
    (named : columns.isEmpty = false) (long : Query.isDegenerate whole minChars = false)
    (long' : Query.isDegenerate raw minChars = false)
    (reveals : ∀ t ∈ Query.terms raw, t.sign = .reveal)
    (union : ∀ t : Text, matchesFragment t whole mode =
      (Query.terms raw).any fun u => matchesFragment t u.fragment mode) :
    (evaluate g whole mode { columns, tag } minChars).grid.flags =
        (evaluate (g.withhold columns) raw mode { tag } minChars).grid.flags ∧
      (evaluate g whole mode { columns, tag } minChars).summary =
        (evaluate (g.withhold columns) raw mode { tag } minChars).summary := by
  have has_columns : IgnoreSet.hasColumns { columns, tag } = true := by
    rw [IgnoreSet.hasColumns, named]
    rfl
  have flags : (evaluate g whole mode { columns, tag } minChars).grid.flags =
      (evaluate (g.withhold columns) raw mode { tag } minChars).grid.flags := by
    rw [Grid.flags, Grid.flags, evaluate_rows_of_whole g mode long has_columns,
      evaluate_rows_of_terms _ mode long' rfl, Grid.withhold, List.map_map, List.map_map,
      List.map_map]
    refine List.map_congr_left fun r _ => ?_
    obtain ⟨visible, highlighted⟩ := r.flags_withhold reveals union
    exact congrArg₂ Prod.mk visible highlighted
  refine ⟨flags, ?_⟩
  rw [evaluate_summary, evaluate_summary, long, long']
  exact Summary.ofGrid_congr flags _

/-- The only term of a query of one piece without a sign. -/
theorem Query.terms_of_isPiece {raw : Text} (hp : raw.IsPiece) (unsigned : ¬ IsSigned raw) :
    terms raw = [⟨.reveal, raw⟩] := by
  rw [terms_of_pieces_eq_cons hp.pieces_eq, Term.ofPiece?_of_not_isSigned unsigned hp.ne_nil]
  rfl

/-- Pieces with a plus in front of each, and a blank between neighbours, are terms that
reveal. -/
theorem Query.terms_join_plus {pieces : List Text} (h : ∀ p ∈ pieces, p.IsPiece) :
    terms (Text.join [' '] (pieces.map ('+' :: ·))) = pieces.map (⟨.reveal, ·⟩) := by
  have expressible : ∀ t ∈ pieces.map (⟨.reveal, ·⟩ : Text → Term), t.Expressible := by
    intro t ht
    obtain ⟨p, hp, rfl⟩ := List.mem_map.1 ht
    exact ⟨h p hp, fun e => Sign.noConfusion e⟩
  have spelled : Text.join [' '] (pieces.map ('+' :: ·)) =
      written (pieces.map (⟨.reveal, ·⟩)) := by
    rw [written, List.map_map]
    rfl
  rw [spelled, terms_written expressible]
  cases pieces <;> rfl

open RegexLiteral (IsAccepted)

/-- **Whole queries and queries of terms agree where they mean the same.** Some columns
are ignored on one side, and their cells are marked by the host on the other. A query
that is one piece without a sign leaves the same flags and the same summary on both
sides, in every mode. In the mode that asks for any phrase, a query leaves on the one
side what its pieces leave on the other, each with a plus in front, if neither the
query nor any of its pieces is taken for a literal. A query without pieces is left out
by the length, since nothing stands on the other side. -/
theorem evaluate_whole_eq_terms (g : Grid) (mode : MatchMode) (minChars : UInt64)
    (tag : Option Text) {columns : ColumnSet} (named : columns.isEmpty = false) :
    (∀ raw : Text, raw.IsPiece → ¬ Query.IsSigned raw →
      Query.isDegenerate raw minChars = false →
      (evaluate g raw mode { columns, tag } minChars).grid.flags =
          (evaluate (g.withhold columns) raw mode { tag } minChars).grid.flags ∧
        (evaluate g raw mode { columns, tag } minChars).summary =
          (evaluate (g.withhold columns) raw mode { tag } minChars).summary) ∧
    (mode = .findAny → ∀ raw : Text, ¬ IsAccepted raw →
      (∀ piece ∈ raw.pieces, ¬ IsAccepted piece) →
      let revealing := Text.join [' '] (raw.pieces.map ('+' :: ·))
      Query.isDegenerate raw minChars = false → Query.isDegenerate revealing minChars = false →
      (evaluate g raw mode { columns, tag } minChars).grid.flags =
          (evaluate (g.withhold columns) revealing mode { tag } minChars).grid.flags ∧
        (evaluate g raw mode { columns, tag } minChars).summary =
          (evaluate (g.withhold columns) revealing mode { tag } minChars).summary) := by
  constructor
  · intro raw hp unsigned long
    have terms := Query.terms_of_isPiece hp unsigned
    refine evaluate_flags_of_union g named long long ?_ ?_
    · rw [terms]
      exact List.forall_mem_singleton.2 rfl
    · intro t
      rw [terms, List.any_cons, List.any_nil, Bool.or_false]
  · rintro rfl raw plain plain_pieces revealing long long'
    have terms : Query.terms revealing = raw.pieces.map (⟨.reveal, ·⟩) :=
      Query.terms_join_plus fun p hp => Text.isPiece_of_mem_pieces hp
    refine evaluate_flags_of_union g named long long' ?_ ?_
    · rw [terms]
      intro t ht
      obtain ⟨p, _, rfl⟩ := List.mem_map.1 ht
      rfl
    · intro t
      rw [terms, List.any_map, matchesFragment_findAny_eq_any plain plain_pieces]
      rfl

/-- A column beside one that is not ignored, a tagged cell, and a query whose sign means
something to neither side. -/
theorem evaluate_whole_eq_terms_two_columns :
    let g : Grid :=
      ⟨[{ cells := [{ text := ['a'] }, { text := ['b'] }] },
        { cells := [{ text := ['x', '-', 'b'] }, { text := ['a'] }] },
        { cells := [{ text := ['a'], tags := [['n']] }, { text := ['a'] }] }]⟩
    let columns := ColumnSet.empty.insert 1
    let tag : Option Text := some ['n']
    Text.IsPiece ['a'] ∧ ¬ Query.IsSigned ['a'] ∧
    (evaluate g ['a'] .findAny { columns, tag } 1).grid.flags =
      (evaluate (g.withhold columns) ['a'] .findAny { tag } 1).grid.flags ∧
    ¬ IsAccepted "a -b".toList ∧ (∀ piece ∈ Text.pieces "a -b".toList, ¬ IsAccepted piece) ∧
    (evaluate g "a -b".toList .findAny { columns, tag } 1).grid.flags =
      (evaluate (g.withhold columns) "+a +-b".toList .findAny { tag } 1).grid.flags ∧
    (evaluate g "a -b".toList .findAny { columns, tag } 1).grid.flags =
      [(true, [true, false]), (true, [true, false]), (false, [false, false])] := by
  intro g columns tag
  have piece : Text.IsPiece ['a'] := .singleton (by decide)
  have unsigned : ¬ Query.IsSigned ['a'] := by simp [Query.IsSigned]
  have plain : ¬ IsAccepted "a -b".toList := RegexLiteral.not_isAccepted_of_head? (by decide)
  have plain_pieces : ∀ piece ∈ Text.pieces "a -b".toList, ¬ IsAccepted piece := by
    intro piece hp
    have cut : Text.pieces "a -b".toList = [['a'], ['-', 'b']] := by decide
    rw [cut] at hp
    refine RegexLiteral.not_isAccepted_of_head? ?_
    rcases List.mem_pair.1 hp with rfl | rfl <;> decide
  obtain ⟨one_piece, any_phrase⟩ :=
    @evaluate_whole_eq_terms g .findAny 1 tag columns (by decide)
  exact ⟨piece, unsigned, (one_piece _ piece unsigned (by decide)).1, plain, plain_pieces,
    (any_phrase rfl _ plain plain_pieces (by decide) (by decide)).1, by decide⟩

end GridFilter
