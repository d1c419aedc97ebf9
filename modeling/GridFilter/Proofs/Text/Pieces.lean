/-
The pieces of a text, said without cutting it.

`pieces` cuts at every separator and throws the empty parts away. What a reader
means by the pieces of a text is something else: its longest runs of characters
that are no separators. `Runs` says that as a grammar, a gap, then a run, then what
is left, and `runs_iff` proves that the one list of runs a text has is the list of
its pieces. The equations for `pieces` that come after are all read off this: a
text in front of a gap and a text behind it are cut each on its own
(`pieces_append_gap_append`), and gaps at the ends count for nothing
(`pieces_trim`).
-/
import GridFilter.Proofs.Text.Trim
import GridFilter.Text.Piece

set_option autoImplicit false

namespace GridFilter.Text

/-! ## Gaps and runs -/

/-- A text of nothing but separators; it may be empty. -/
def IsGap (t : Text) : Prop := ∀ c ∈ t, isSeparator c = true

/-- A text that is one piece: it is there, and no separator is in it. -/
structure IsPiece (t : Text) : Prop where
  ne_nil : t ≠ []
  solid : ∀ c ∈ t, isSeparator c = false

/-- The runs of a text, in order. A run ends where a separator follows or nothing
does, so it cannot be longer on the right. It cannot be longer on the left either:
what stands before it is a gap, and before that, if the gap is empty, nothing. -/
inductive Runs : Text → List Text → Prop where
  | nil {gap : Text} (hgap : IsGap gap) : Runs gap []
  | cons {gap run rest : Text} {runs : List Text} (hgap : IsGap gap) (hrun : IsPiece run)
      (hend : ∀ c, rest.head? = some c → isSeparator c = true) (hrest : Runs rest runs) :
      Runs (gap ++ run ++ rest) (run :: runs)

theorem isSeparator_of_isBlank {c : Char} (h : isBlank c = true) : isSeparator c = true := by
  rw [isSeparator, h, Bool.true_or]

theorem isSeparator_eq_false_iff {c : Char} :
    isSeparator c = false ↔ isBlank c = false ∧ c ≠ ',' := by
  rw [isSeparator, Bool.or_eq_false_iff, beq_eq_false_iff_ne]

namespace IsGap

variable {s t : Text} {c : Char}

theorem nil : IsGap [] := by simp [IsGap]

theorem cons_iff : IsGap (c :: t) ↔ isSeparator c = true ∧ IsGap t := List.forall_mem_cons

/-- The gap that is written between pieces. -/
theorem blank : IsGap [' '] := cons_iff.2 ⟨by decide, .nil⟩

/-- A gap begins with a separator, unless it is empty. -/
theorem isSeparator_of_head? (h : IsGap t) (hc : t.head? = some c) : isSeparator c = true :=
  h c (List.mem_of_head? hc)

theorem of_blanks (h : ∀ c ∈ t, isBlank c = true) : IsGap t :=
  fun c hc => isSeparator_of_isBlank (h c hc)

end IsGap

namespace IsPiece

variable {t : Text} {c : Char}

theorem singleton (h : isSeparator c = false) : IsPiece [c] :=
  ⟨List.cons_ne_nil c [], by simpa using h⟩

/-- A piece stays one when a character is put in front. -/
theorem cons (h : isSeparator c = false) (ht : IsPiece t) : IsPiece (c :: t) :=
  ⟨List.cons_ne_nil c t, List.forall_mem_cons.2 ⟨h, ht.solid⟩⟩

/-- A piece without its first character is a piece, if anything is left. -/
theorem of_cons (h : IsPiece (c :: t)) (ht : t ≠ []) : IsPiece t :=
  ⟨ht, fun d hd => h.solid d (List.mem_cons_of_mem c hd)⟩

end IsPiece

/-! ## Every text has runs -/

/-- A separator in front joins the first gap. -/
theorem Runs.cons_separator {t : Text} {runs : List Text} {c : Char}
    (hc : isSeparator c = true) (h : Runs t runs) : Runs (c :: t) runs := by
  cases h with
  | nil hgap => exact .nil (IsGap.cons_iff.2 ⟨hc, hgap⟩)
  | cons hgap hrun hend hrest => exact .cons (IsGap.cons_iff.2 ⟨hc, hgap⟩) hrun hend hrest

/-- A run at the very front, with no gap before it. -/
theorem Runs.cons_run {run rest : Text} {runs : List Text} (hrun : IsPiece run)
    (hend : ∀ c, rest.head? = some c → isSeparator c = true) (hrest : Runs rest runs) :
    Runs (run ++ rest) (run :: runs) :=
  .cons .nil hrun hend hrest

/-- A character that is no separator makes the first run longer if that run is at
the very front, and is a new run if it is not. -/
theorem exists_runs (t : Text) : ∃ runs, Runs t runs := by
  induction t with
  | nil => exact ⟨[], .nil .nil⟩
  | cons c t ih =>
    obtain ⟨runs, h⟩ := ih
    by_cases hc : isSeparator c = true
    · exact ⟨runs, h.cons_separator hc⟩
    · have solid : isSeparator c = false := by simpa using hc
      cases h with
      | nil hgap =>
        -- All of `t` is a gap, so it either is empty or ends the new run.
        exact ⟨[[c]], .cons_run (.singleton solid)
          (fun d hd => hgap.isSeparator_of_head? hd) (.nil hgap)⟩
      | @cons gap run rest runs hgap hrun hend hrest =>
        cases gap with
        | nil =>
          -- Nothing parts `c` from the run, which therefore grows by it.
          exact ⟨(c :: run) :: runs, .cons_run (hrun.cons solid) hend hrest⟩
        | cons d gap =>
          -- The separator `d` ends the new run, and the old one keeps its gap.
          refine ⟨[c] :: run :: runs, .cons_run (.singleton solid) ?_
            (.cons hgap hrun hend hrest)⟩
          rintro e he
          obtain rfl : d = e := by simpa using he
          exact (IsGap.cons_iff.1 hgap).1

/-! ## Runs are pieces -/

/-- **Cutting at a separator cuts what is on its left and what is on its right.** -/
theorem pieces_append_cons {d : Char} (hd : isSeparator d = true) (s t : Text) :
    pieces (s ++ d :: t) = pieces s ++ pieces t := by
  rw [pieces, splitWhere_append_cons _ s t d hd, List.filter_append]
  rfl

/-- A text in one piece. -/
theorem IsPiece.pieces_eq {t : Text} (h : IsPiece t) : pieces t = [t] := by
  rw [pieces, splitWhere_eq_singleton h.solid]
  simp [h.ne_nil]

/-- A gap in front counts for nothing. -/
theorem pieces_gap_append {s : Text} (hs : IsGap s) (t : Text) : pieces (s ++ t) = pieces t := by
  induction s with
  | nil => rfl
  | cons d s ih =>
    obtain ⟨hd, hgap⟩ := IsGap.cons_iff.1 hs
    calc pieces (d :: (s ++ t)) = pieces [] ++ pieces (s ++ t) := pieces_append_cons hd [] (s ++ t)
      _ = pieces t := ih hgap

theorem IsGap.pieces_eq {t : Text} (h : IsGap t) : pieces t = [] := by
  rw [← List.append_nil t, pieces_gap_append h]
  rfl

/-- Where a separator follows, or nothing does, both sides are cut on their own. -/
theorem pieces_append_of_separated {s t : Text}
    (h : ∀ c, t.head? = some c → isSeparator c = true) :
    pieces (s ++ t) = pieces s ++ pieces t := by
  cases t with
  | nil => rw [List.append_nil, IsGap.nil.pieces_eq, List.append_nil]
  | cons d t =>
    -- The separator `d` is a gap of its own, on either side of the equation.
    have hd : isSeparator d = true := h d rfl
    rw [pieces_append_cons hd, ← List.nil_append (d :: t), pieces_append_cons hd,
      IsGap.nil.pieces_eq, List.nil_append]

theorem Runs.pieces_eq {t : Text} {runs : List Text} (h : Runs t runs) : pieces t = runs := by
  induction h with
  | nil hgap => exact hgap.pieces_eq
  | cons hgap hrun hend _ ih =>
    rw [pieces_append_of_separated hend, pieces_gap_append hgap, hrun.pieces_eq, ih]
    rfl

/-- **The runs of a text are its pieces.** So every text has runs, and has them in
one way only. -/
theorem runs_iff {t : Text} {runs : List Text} : Runs t runs ↔ pieces t = runs := by
  constructor
  · exact Runs.pieces_eq
  · rintro rfl
    obtain ⟨runs, h⟩ := exists_runs t
    rwa [h.pieces_eq]

/-! ## Pieces of a text -/

theorem isPiece_of_mem_pieces {t p : Text} (h : p ∈ pieces t) : IsPiece p := by
  obtain ⟨hpart, hne⟩ := List.mem_filter.1 h
  exact ⟨by simpa using hne, fun c hc => not_of_mem_splitWhere hpart hc⟩

/-- A gap at the end counts for nothing. -/
theorem pieces_append_gap {u : Text} (hu : IsGap u) (t : Text) : pieces (t ++ u) = pieces t := by
  rw [pieces_append_of_separated fun c hc => hu.isSeparator_of_head? hc, hu.pieces_eq,
    List.append_nil]

/-- **A gap in the middle parts the pieces on its left from those on its right.** -/
theorem pieces_append_gap_append {gap : Text} (hgap : IsGap gap) (ne : gap ≠ []) (s t : Text) :
    pieces (s ++ gap ++ t) = pieces s ++ pieces t := by
  have separated : ∀ c, (gap ++ t).head? = some c → isSeparator c = true := by
    intro c hc
    rw [List.head?_append_of_ne_nil gap ne] at hc
    exact hgap.isSeparator_of_head? hc
  rw [List.append_assoc, pieces_append_of_separated separated, pieces_gap_append hgap]

/-- Trimming takes no piece away. -/
theorem pieces_trim (t : Text) : pieces t.trim = pieces t := by
  obtain ⟨s, u, hs, hu, ht⟩ := exists_blanks_eq_append_trim t
  conv_rhs => rw [ht]
  rw [pieces_append_gap (.of_blanks hu), pieces_gap_append (.of_blanks hs)]

/-- Pieces that are joined by a gap are the pieces of what comes out. -/
theorem pieces_join_gap {gap : Text} (hgap : IsGap gap) (ne : gap ≠ []) {ps : List Text}
    (h : ∀ p ∈ ps, IsPiece p) : pieces (join gap ps) = ps := by
  induction ps with
  | nil => rfl
  | cons p rest ih =>
    obtain ⟨hp, hrest⟩ := List.forall_mem_cons.1 h
    cases rest with
    | nil => simpa [join, List.intercalate] using hp.pieces_eq
    | cons q rest =>
      rw [join_cons_of_ne_nil _ _ (List.cons_ne_nil q rest), pieces_append_gap_append hgap ne,
        hp.pieces_eq, ih hrest]
      rfl

end GridFilter.Text
