/-
The query after a phrase is picked.

`composeQuery` puts texts together: the query that is there without its outer
blanks, a gap, a sign, the phrase and a blank to type on. What the host wants from
it is said in terms, not in texts: the terms that are there stay as they are, and
one more stands behind them. `terms_composeQuery` proves that for a phrase that is
a single piece, in all four states of the modifiers and for every query that is
there, be it blank, of commas only, of lone signs only, or a real one.

Every text that is put together has the form `appendPiece base piece`, whose pieces
are those of the base and the one that is appended. A piece with a sign in front is
read alike at all places, so only the phrase that is appended as it is has to ask
whether it is the first piece of the query.
-/
import GridFilter.Proofs.Query.Grammar
import GridFilter.QuickItem

set_option autoImplicit false

namespace GridFilter

open Query

/-! ## One piece more -/

namespace Query

/-- A piece behind a query, ready for more. -/
def appendPiece (base piece : Text) : Text :=
  base ++ (if base.isEmpty then [] else [' ']) ++ piece ++ [' ']

variable {base piece : Text}

theorem pieces_appendPiece (base : Text) (h : piece.IsPiece) :
    (appendPiece base piece).pieces = base.pieces ++ [piece] := by
  rw [appendPiece, Text.pieces_append_gap .blank]
  by_cases empty : base = []
  · subst empty
    exact h.pieces_eq
  · rw [if_neg (by simpa using empty),
      Text.pieces_append_gap_append .blank (List.cons_ne_nil _ _), h.pieces_eq]

/-- A piece that is read alike at all places adds its term, also to a query without
pieces. -/
theorem terms_appendPiece {t : Term} (h : piece.IsPiece)
    (alike : ∀ unsigned, Term.ofPiece? unsigned piece = some t) :
    terms (appendPiece base piece) = terms base ++ [t] := by
  have cut := pieces_appendPiece base h
  cases hb : base.pieces with
  | nil =>
    -- The base may hold commas or blanks, and still the piece is the first.
    rw [hb, List.nil_append] at cut
    rw [terms_of_pieces_eq_cons cut, terms_of_pieces_eq_nil hb, alike]
    rfl
  | cons first rest =>
    rw [← h.pieces_eq] at cut
    rw [terms_append cut (by simp [hb]), h.pieces_eq, List.filterMap_cons, alike]
    rfl

/-- Behind other pieces a piece adds what it is read as there. -/
theorem terms_appendPiece_later (h : piece.IsPiece) (ne : base.pieces ≠ []) :
    terms (appendPiece base piece) = terms base ++ (Term.ofPiece? .narrow piece).toList := by
  have cut := pieces_appendPiece base h
  rw [← h.pieces_eq] at cut
  rw [terms_append cut ne, h.pieces_eq, List.filterMap_cons]
  cases Term.ofPiece? .narrow piece <;> rfl

/-- Behind gaps a piece is read as if it stood alone. -/
theorem terms_appendPiece_alone (h : piece.IsPiece) (none : base.pieces = []) :
    terms (appendPiece base piece) = terms piece := by
  refine terms_congr ?_
  rw [pieces_appendPiece base h, none, List.nil_append, h.pieces_eq]

/-- A query is read as if its outer blanks were not there. -/
theorem terms_trim (raw : Text) : terms raw.trim = terms raw := terms_congr (Text.pieces_trim raw)

end Query

/-! ## What is put together -/

variable {current phrase : Text}

theorem composeQuery_plain :
    composeQuery current phrase {} = appendPiece [] phrase := by
  simp [composeQuery, appendPiece]

theorem composeQuery_add :
    composeQuery current phrase { add := true } = appendPiece current.trim phrase := by
  simp [composeQuery, appendPiece]

theorem composeQuery_add_subtract :
    composeQuery current phrase { add := true, subtract := true } =
      appendPiece current.trim ('+' :: phrase) := by
  simp [composeQuery, appendPiece]

/-- A phrase is taken out of the query that is there, or of the full stop that is
put in its place. -/
theorem composeQuery_subtract :
    composeQuery current phrase { subtract := true } =
      appendPiece (if current.trim.isEmpty then ['.'] else current.trim) ('-' :: phrase) := by
  by_cases empty : current.trim.isEmpty = true <;> simp [composeQuery, appendPiece, empty]

/-! ## What its terms are -/

theorem terms_composeQuery_plain (hp : phrase.IsPiece) (current : Text) :
    terms (composeQuery current phrase {}) = terms phrase := by
  rw [composeQuery_plain, terms_appendPiece_alone hp rfl]

theorem terms_composeQuery_add_subtract (hp : phrase.IsPiece) (current : Text) :
    terms (composeQuery current phrase { add := true, subtract := true }) =
      terms current ++ [⟨.reveal, phrase⟩] := by
  have plus : Text.IsPiece ('+' :: phrase) := hp.cons (by decide)
  rw [composeQuery_add_subtract, terms_appendPiece plus fun _ => Term.ofPiece?_plus hp.ne_nil,
    terms_trim]

/-- Behind a minus sign the phrase is hidden, whatever stands before. -/
theorem terms_appendPiece_minus (hp : phrase.IsPiece) (base : Text) :
    terms (appendPiece base ('-' :: phrase)) = terms base ++ [⟨.hide, phrase⟩] := by
  have minus : Text.IsPiece ('-' :: phrase) := hp.cons (by decide)
  exact terms_appendPiece minus fun _ => Term.ofPiece?_minus hp.ne_nil

theorem terms_composeQuery_subtract (hp : phrase.IsPiece)
    (there : ∃ c ∈ current, Text.isBlank c = false) :
    terms (composeQuery current phrase { subtract := true }) =
      terms current ++ [⟨.hide, phrase⟩] := by
  obtain ⟨c, hc, solid⟩ := there
  have ne : current.trim ≠ [] := by
    intro empty
    have blank : Text.isBlank c = true := Text.trim_eq_nil_iff.1 empty c hc
    exact absurd blank (by simp [solid])
  rw [composeQuery_subtract, if_neg (by simpa using ne), terms_appendPiece_minus hp, terms_trim]

/-- There is nothing to take the phrase out of, so the full stop shows the rows first. -/
theorem terms_composeQuery_subtract_of_blanks (hp : phrase.IsPiece)
    (blank : ∀ c ∈ current, Text.isBlank c = true) :
    terms (composeQuery current phrase { subtract := true }) =
      [⟨.reveal, ['.']⟩, ⟨.hide, phrase⟩] := by
  have empty : current.trim = [] := Text.trim_eq_nil_iff.2 blank
  rw [composeQuery_subtract, if_pos (by simpa using empty), terms_appendPiece_minus hp]
  rfl

theorem terms_composeQuery_add_later (hp : phrase.IsPiece) (ne : current.pieces ≠ []) :
    terms (composeQuery current phrase { add := true }) =
      terms current ++ (Term.ofPiece? .narrow phrase).toList := by
  rw [composeQuery_add, terms_appendPiece_later hp (by rwa [Text.pieces_trim]), terms_trim]

theorem terms_composeQuery_add_alone (hp : phrase.IsPiece) (none : current.pieces = []) :
    terms (composeQuery current phrase { add := true }) = terms phrase := by
  rw [composeQuery_add, terms_appendPiece_alone hp (by rwa [Text.pieces_trim])]

/-- Every composed query ends in the blank to type on, behind the phrase. -/
theorem composeQuery_ends_in_blank (hp : phrase.IsPiece) (current : Text)
    (mods : PickModifiers) :
    ∃ front c, composeQuery current phrase mods = front ++ [c, ' '] ∧
      Text.isBlank c = false := by
  obtain ⟨front, composed⟩ : ∃ front, composeQuery current phrase mods = front ++ phrase ++ [' '] :=
    ⟨_, rfl⟩
  have last : phrase = phrase.dropLast ++ [phrase.getLast hp.ne_nil] :=
    (List.dropLast_append_getLast hp.ne_nil).symm
  refine ⟨front ++ phrase.dropLast, phrase.getLast hp.ne_nil, ?_, ?_⟩
  · rw [composed]
    conv_lhs => rw [last]
    simp only [List.append_assoc, List.singleton_append]
  · have solid := hp.solid _ (List.getLast_mem hp.ne_nil)
    exact (Text.isSeparator_eq_false_iff.1 solid).1

/-- **Picking a phrase changes the terms of a query as intended.** The phrase is a
single piece. Without modifiers the terms are those of the phrase; with both, the
phrase is revealed behind the terms that are there. With `subtract` it is hidden
behind them if anything but blanks is there, and behind a full stop that reveals if
not. With `add` it is read as it is: behind other pieces as one that is not the
first, where a lone sign is no term, and alone if there are none. The query always
ends in one blank. -/
theorem terms_composeQuery {phrase : Text} (hp : phrase.IsPiece) (current : Text) :
    terms (composeQuery current phrase {}) = terms phrase ∧
    terms (composeQuery current phrase { add := true, subtract := true }) =
      terms current ++ [⟨.reveal, phrase⟩] ∧
    ((∃ c ∈ current, Text.isBlank c = false) →
      terms (composeQuery current phrase { subtract := true }) =
        terms current ++ [⟨.hide, phrase⟩]) ∧
    ((∀ c ∈ current, Text.isBlank c = true) →
      terms (composeQuery current phrase { subtract := true }) =
        [⟨.reveal, ['.']⟩, ⟨.hide, phrase⟩]) ∧
    (current.pieces ≠ [] → isLoneSign phrase = false → ∃ t, ReadsAs (phrase, 1) t ∧
      terms (composeQuery current phrase { add := true }) = terms current ++ [t]) ∧
    (current.pieces ≠ [] → isLoneSign phrase = true →
      terms (composeQuery current phrase { add := true }) = terms current) ∧
    (current.pieces = [] →
      terms (composeQuery current phrase { add := true }) = terms phrase) ∧
    ∀ mods, ∃ front c, composeQuery current phrase mods = front ++ [c, ' '] ∧
      Text.isBlank c = false := by
  refine ⟨terms_composeQuery_plain hp current, terms_composeQuery_add_subtract hp current,
    terms_composeQuery_subtract hp, terms_composeQuery_subtract_of_blanks hp, ?_, ?_,
    terms_composeQuery_add_alone hp, composeQuery_ends_in_blank hp current⟩
  · intro ne several
    rw [terms_composeQuery_add_later hp ne]
    cases read : Term.ofPiece? .narrow phrase with
    | none =>
      -- Only a lone sign is read as nothing.
      have lone := Term.isLoneSign_of_ofPiece?_eq_none hp.ne_nil read
      exact absurd several (by simp [lone])
    | some t => exact ⟨t, ((Term.ofPiece?_eq_some_iff (i := 1) hp.ne_nil).1 read).2, rfl⟩
  · intro ne lone
    rw [terms_composeQuery_add_later hp ne, Term.ofPiece?_of_isLoneSign lone, Option.toList_none,
      List.append_nil]

/-- A phrase with a sign of its own, picked where only a lone sign is and where
nothing but a blank is. -/
theorem terms_composeQuery_signed_phrase :
    Text.IsPiece ['-', 'x'] ∧
    terms (composeQuery [',', '+'] ['-', 'x'] { subtract := true }) =
      terms [',', '+'] ++ [⟨.hide, ['-', 'x']⟩] ∧
    (∃ t, ReadsAs (['-', 'x'], 1) t ∧
      terms (composeQuery [',', '+'] ['-', 'x'] { add := true }) = terms [',', '+'] ++ [t]) ∧
    terms (composeQuery [' '] ['-', 'x'] { subtract := true }) =
      [⟨.reveal, ['.']⟩, ⟨.hide, ['-', 'x']⟩] ∧
    terms (composeQuery [' '] ['-', 'x'] { add := true }) = terms ['-', 'x'] := by
  have piece : Text.IsPiece ['-', 'x'] := .cons (by decide) (.singleton (by decide))
  obtain ⟨_, _, kept, _, behind, _⟩ := terms_composeQuery piece [',', '+']
  obtain ⟨_, _, _, fresh, _, _, alone, _⟩ := terms_composeQuery piece [' ']
  exact ⟨piece, kept ⟨'+', by decide, by decide⟩, behind (by decide) (by decide),
    fresh (List.forall_mem_singleton.2 rfl), alone rfl⟩

end GridFilter
