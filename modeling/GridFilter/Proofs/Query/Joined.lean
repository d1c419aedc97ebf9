/-
Queries joined by separators.

Whoever types goes on behind what is there, and so do queries that are put together. What
this does to the terms can be said without looking at the text again: behind a text without
pieces a query is read as if it stood alone, and behind one with pieces its terms follow
those that are there. They are the same terms but for one place. A first piece without a
sign reveals where it stands first, and narrows where it does not (`termsLater`,
`termsLater_of_unsigned`).

Whether something stands before is a question about pieces and not about terms: a lone
sign is a piece without a term, and is enough. Separators are no pieces, so how many there
are and which is never seen.
-/
import GridFilter.Proofs.Query.Grammar

set_option autoImplicit false

namespace GridFilter

open Query

/-- A sign in front of a piece leaves nothing for its place to say. -/
theorem Term.ofPiece?_of_isSigned {piece : Text} (h : IsSigned piece) (ne : piece ≠ [])
    (s s' : Sign) : ofPiece? s piece = ofPiece? s' piece := by
  rcases piece_cases ne with alone | ⟨fragment, hf, rfl⟩ | ⟨fragment, hf, rfl⟩ | plain
  · rw [ofPiece?_of_isLoneSign alone, ofPiece?_of_isLoneSign alone]
  · rw [ofPiece?_plus hf, ofPiece?_plus hf]
  · rw [ofPiece?_minus hf, ofPiece?_minus hf]
  · exact absurd h plain

namespace Query

/-! ## Terms behind other pieces -/

/-- The terms of a query where other pieces stand before it. -/
def termsLater (raw : Text) : List Term := raw.pieces.filterMap (Term.ofPiece? .narrow)

variable {a b gap : Text}

/-- Unless the first piece is without a sign, the place of a query does not matter. -/
theorem termsLater_of_signed (h : ∀ first, b.pieces.head? = some first → IsSigned first) :
    termsLater b = terms b := by
  rw [termsLater]
  cases hb : b.pieces with
  | nil => rw [terms_of_pieces_eq_nil hb, List.filterMap_nil]
  | cons first rest =>
    have signed : IsSigned first := h first (by rw [hb, List.head?_cons])
    have present : first ≠ [] := (Text.isPiece_of_mem_pieces (hb ▸ List.mem_cons_self)).ne_nil
    rw [terms_of_pieces_eq_cons hb, List.filterMap_cons,
      Term.ofPiece?_of_isSigned signed present .narrow .reveal]
    cases Term.ofPiece? .reveal first <;> rfl

/-- A first piece without a sign gives the first term, and the sign of that is what the
place decides. -/
theorem termsLater_of_unsigned {first : Text} (h : b.pieces.head? = some first)
    (plain : ¬ IsSigned first) :
    ∃ rest, terms b = ⟨.reveal, first⟩ :: rest ∧ termsLater b = ⟨.narrow, first⟩ :: rest := by
  obtain ⟨rest, hb⟩ := List.head?_eq_some_iff.1 h
  have present : first ≠ [] := (Text.isPiece_of_mem_pieces (hb ▸ List.mem_cons_self)).ne_nil
  refine ⟨rest.filterMap (Term.ofPiece? .narrow), ?_, ?_⟩
  · rw [terms_of_pieces_eq_cons hb, Term.ofPiece?_of_not_isSigned plain present]
    rfl
  · rw [termsLater, hb, List.filterMap_cons, Term.ofPiece?_of_not_isSigned plain present]

/-! ## Joining -/

/-- Behind a text without pieces a query is read as if it stood alone. -/
theorem terms_append_of_pieces_eq_nil (hgap : gap.IsGap) (ne : gap ≠ [])
    (absent : a.pieces = []) (b : Text) : terms (a ++ gap ++ b) = terms b := by
  refine terms_congr ?_
  rw [Text.pieces_append_gap_append hgap ne, absent, List.nil_append]

/-- Behind other pieces its terms follow those that are there. -/
theorem terms_append_later (hgap : gap.IsGap) (ne : gap ≠ []) (present : a.pieces ≠ [])
    (b : Text) : terms (a ++ gap ++ b) = terms a ++ termsLater b :=
  terms_append (Text.pieces_append_gap_append hgap ne a b) present

theorem terms_gap_append (hgap : gap.IsGap) (b : Text) : terms (gap ++ b) = terms b :=
  terms_congr (Text.pieces_gap_append hgap b)

theorem terms_append_gap (hgap : gap.IsGap) (a : Text) : terms (a ++ gap) = terms a :=
  terms_congr (Text.pieces_append_gap hgap a)

/-- Two texts that have the same runs, whatever is between them, have the same terms. -/
theorem terms_congr_runs {runs : List Text} (ha : a.Runs runs) (hb : b.Runs runs) :
    terms a = terms b :=
  terms_congr (ha.pieces_eq.trans hb.pieces_eq.symm)

/-- **Reading a query is compositional over separators.** Let a gap that is not empty stand
between `a` and `b`. If `a` has no piece, the terms are those of `b`. If it has some, they
are those of `a` and then those of `b`, where the term of a first piece without a sign
narrows and does not reveal. Gaps at the ends change nothing, nor does another gap in the
middle; in general, what a query is read as depends on its runs alone. -/
theorem terms_append_gap_append {gap : Text} (hgap : gap.IsGap) (ne : gap ≠ []) (a b : Text) :
    (a.pieces = [] → terms (a ++ gap ++ b) = terms b) ∧
    (a.pieces ≠ [] → ∃ ts, terms (a ++ gap ++ b) = terms a ++ ts ∧
      ((∀ first, b.pieces.head? = some first → IsSigned first) → ts = terms b) ∧
      ∀ first, b.pieces.head? = some first → ¬ IsSigned first →
        ∃ rest, terms b = ⟨.reveal, first⟩ :: rest ∧ ts = ⟨.narrow, first⟩ :: rest) ∧
    terms (gap ++ b) = terms b ∧ terms (a ++ gap) = terms a ∧
    (∀ gap' : Text, gap'.IsGap → gap' ≠ [] →
      terms (a ++ gap' ++ b) = terms (a ++ gap ++ b)) ∧
    ∀ runs, a.Runs runs → b.Runs runs → terms a = terms b := by
  refine ⟨?_, ?_, terms_gap_append hgap b, terms_append_gap hgap a, ?_, ?_⟩
  · intro absent
    exact terms_append_of_pieces_eq_nil hgap ne absent b
  · intro present
    refine ⟨termsLater b, terms_append_later hgap ne present b, termsLater_of_signed, ?_⟩
    intro first h plain
    exact termsLater_of_unsigned h plain
  · intro gap' hgap' ne'
    refine terms_congr ?_
    rw [Text.pieces_append_gap_append hgap' ne', Text.pieces_append_gap_append hgap ne]
  · intro runs
    exact terms_congr_runs

/-- Behind a lone sign, which is a piece and no term. -/
theorem terms_append_gap_append_lone_sign :
    Text.IsGap [',', ' '] ∧ ∃ rest, terms "x -y".toList = ⟨.reveal, ['x']⟩ :: rest ∧
      terms (['+'] ++ [',', ' '] ++ "x -y".toList) = terms ['+'] ++ ⟨.narrow, ['x']⟩ :: rest := by
  have gap : Text.IsGap [',', ' '] := Text.IsGap.cons_iff.2 ⟨by decide, .blank⟩
  obtain ⟨_, joined, _⟩ := terms_append_gap_append gap (by decide) ['+'] "x -y".toList
  obtain ⟨ts, terms_eq, _, unsigned⟩ := joined (by decide)
  obtain ⟨rest, alone, later⟩ := unsigned ['x'] (by decide) (by simp [IsSigned])
  exact ⟨gap, rest, alone, by rw [terms_eq, later]⟩

end Query

end GridFilter
