/-
Terms that can be written.

A term is displayed as its sign and its fragment, and a list of terms is written
with single blanks between them. Two questions are settled here together. Which
lists of terms does any query have at all? Exactly those whose terms are each
`Expressible`: the fragment is one piece, and it is not taken for a signed one when
the term has no sign to put in front. And does the written form have the terms it
was written from? Up to one place: a narrowing term has no sign, so at the very
front it is read as revealing.

Both rest on one equation for a displayed term (`Term.ofPiece?_display`). The query
that shows the first half is the written form behind a lone plus, which uses up the
first place and gives no term.
-/
import GridFilter.Proofs.Query.Grammar

set_option autoImplicit false

namespace GridFilter

open Query

/-! ## One term -/

namespace Term

/-- Some query has the term: its fragment is a piece, and if the term has no sign,
then its fragment has none either. -/
structure Expressible (t : Term) : Prop where
  isPiece : t.fragment.IsPiece
  unsigned : t.sign = .narrow → ¬ IsSigned t.fragment

/-- The term with another sign in the place of a missing one. -/
def orSign (t : Term) (unsigned : Sign) : Term :=
  if t.sign = .narrow then { t with sign := unsigned } else t

theorem orSign_narrow (t : Term) : t.orSign .narrow = t := by
  obtain ⟨sign, fragment⟩ := t
  cases sign <;> rfl

namespace Expressible

variable {t : Term}

/-- A term that is displayed is one piece: signs are no separators. -/
theorem display_isPiece (h : t.Expressible) : t.display.IsPiece := by
  obtain ⟨sign, fragment⟩ := t
  cases sign with
  | reveal | hide => exact .cons (by decide) h.isPiece
  | narrow => exact h.isPiece

/-- **A displayed term is read back**, with the sign that the place gives it if it
has none. -/
theorem ofPiece?_display (h : t.Expressible) (unsigned : Sign) :
    ofPiece? unsigned t.display = some (t.orSign unsigned) := by
  obtain ⟨sign, fragment⟩ := t
  have ne : fragment ≠ [] := h.isPiece.ne_nil
  cases sign with
  | reveal => exact ofPiece?_plus ne
  | hide => exact ofPiece?_minus ne
  | narrow => exact ofPiece?_of_not_isSigned (h.unsigned rfl) ne

end Expressible

/-- What a piece is read as is expressible, whatever place the piece has. -/
theorem expressible_of_readsAs {piece : Text} {i : Nat} {t : Term} (hp : piece.IsPiece)
    (several : isLoneSign piece = false) (h : ReadsAs (piece, i) t) : t.Expressible := by
  cases h with
  | plus fragment i =>
    exact ⟨hp.of_cons (isLoneSign_plus_eq_false_iff.1 several), fun e => Sign.noConfusion e⟩
  | minus fragment i =>
    exact ⟨hp.of_cons (isLoneSign_minus_eq_false_iff.1 several), fun e => Sign.noConfusion e⟩
  | first plain => exact ⟨hp, fun e => Sign.noConfusion e⟩
  | later plain i => exact ⟨hp, fun _ => plain⟩

end Term

/-! ## A list of terms -/

namespace Query

/-- Terms as they are written one after the other. -/
def written (ts : List Term) : Text := Text.join [' '] (ts.map Term.display)

variable {ts : List Term}

theorem expressible_of_mem_terms {raw : Text} {t : Term} (h : t ∈ terms raw) : t.Expressible := by
  rw [terms_eq_filterMap_zipIdx, List.mem_filterMap] at h
  obtain ⟨⟨piece, i⟩, hpiece, ht⟩ := h
  have isPiece := Text.isPiece_of_mem_pieces (List.fst_mem_of_mem_zipIdx hpiece)
  obtain ⟨several, reads⟩ := (Term.ofPiece?_eq_some_iff isPiece.ne_nil).1 ht
  exact Term.expressible_of_readsAs isPiece several reads

/-- The pieces of what is written are the displayed terms. -/
theorem pieces_written (h : ∀ t ∈ ts, t.Expressible) :
    (written ts).pieces = ts.map Term.display := by
  refine Text.pieces_join_gap .blank (List.cons_ne_nil _ _) ?_
  intro p hp
  obtain ⟨t, ht, rfl⟩ := List.mem_map.1 hp
  exact (h t ht).display_isPiece

/-- Behind other pieces all displayed terms are read back as they are. -/
theorem filterMap_ofPiece?_display (h : ∀ t ∈ ts, t.Expressible) :
    (ts.map Term.display).filterMap (Term.ofPiece? .narrow) = ts := by
  induction ts with
  | nil => rfl
  | cons t ts ih =>
    obtain ⟨ht, hts⟩ := List.forall_mem_cons.1 h
    rw [List.map_cons, List.filterMap_cons, ht.ofPiece?_display, ih hts, Term.orSign_narrow]

/-- At the front of a query the first of the terms takes the sign of that place. -/
theorem terms_written (h : ∀ t ∈ ts, t.Expressible) :
    terms (written ts) = ts.modifyHead (·.orSign .reveal) := by
  have cut := pieces_written h
  cases ts with
  | nil => exact terms_of_pieces_eq_nil cut
  | cons t ts =>
    obtain ⟨ht, hts⟩ := List.forall_mem_cons.1 h
    rw [terms_of_pieces_eq_cons cut, ht.ofPiece?_display, filterMap_ofPiece?_display hts]
    rfl

/-- **Behind a lone plus all terms are read back.** -/
theorem terms_plus_written (h : ∀ t ∈ ts, t.Expressible) :
    terms ('+' :: ' ' :: written ts) = ts := by
  -- The plus is a piece, so the terms are not in the first place; but it is no term.
  have lone : Text.IsPiece ['+'] := .singleton (by decide)
  have cut : Text.pieces ('+' :: ' ' :: written ts) =
      Text.pieces ['+'] ++ (written ts).pieces :=
    Text.pieces_append_cons (by decide) ['+'] (written ts)
  rw [terms_append cut (by simp [lone.pieces_eq]), pieces_written h,
    filterMap_ofPiece?_display h]
  rfl

/-- **Which terms queries have, and what becomes of them when they are written.** A
list of terms is that of some query exactly when each fragment is a piece and no
narrowing term has a fragment that begins with a sign. Such a list, displayed with
single blanks between the terms, is read back as it was; only a narrowing term in
front of all others comes back revealing, with the same fragment. -/
theorem terms_written_range_roundTrip (ts : List Term) :
    ((∃ raw, terms raw = ts) ↔ ∀ t ∈ ts, t.Expressible) ∧
    ((∀ t ∈ ts, t.Expressible) →
      terms (written ts) =
        match ts with
        | ⟨.narrow, fragment⟩ :: rest => ⟨.reveal, fragment⟩ :: rest
        | ts => ts) := by
  refine ⟨⟨?_, fun h => ?_⟩, fun h => ?_⟩
  · rintro ⟨raw, rfl⟩ t ht
    exact expressible_of_mem_terms ht
  · exact ⟨_, terms_plus_written h⟩
  · rw [terms_written h]
    cases ts with
    | nil => rfl
    | cons t ts =>
      obtain ⟨sign, fragment⟩ := t
      cases sign <;> rfl

/-- A narrowing term in front, and fragments that begin with a sign themselves. -/
theorem terms_written_range_roundTrip_signs :
    (∃ raw, terms raw = [⟨.narrow, ['a']⟩, ⟨.hide, ['-', 'x']⟩, ⟨.reveal, ['+']⟩]) ∧
    terms (written [⟨.narrow, ['a']⟩, ⟨.hide, ['-', 'x']⟩, ⟨.reveal, ['+']⟩]) =
      [⟨.reveal, ['a']⟩, ⟨.hide, ['-', 'x']⟩, ⟨.reveal, ['+']⟩] := by
  have narrow : Term.Expressible ⟨.narrow, ['a']⟩ :=
    ⟨.singleton (by decide), by simp [IsSigned]⟩
  have hide : Term.Expressible ⟨.hide, ['-', 'x']⟩ :=
    ⟨.cons (by decide) (.singleton (by decide)), by simp⟩
  have reveal : Term.Expressible ⟨.reveal, ['+']⟩ := ⟨.singleton (by decide), by simp⟩
  obtain ⟨range, roundTrip⟩ :=
    terms_written_range_roundTrip [⟨.narrow, ['a']⟩, ⟨.hide, ['-', 'x']⟩, ⟨.reveal, ['+']⟩]
  exact ⟨range.2 (by simp [narrow, hide, reveal]), roundTrip (by simp [narrow, hide, reveal])⟩

end Query

end GridFilter
