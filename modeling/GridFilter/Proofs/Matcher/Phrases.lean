/-
Fragments that are matched phrase by phrase.

In the modes that look for phrases, a fragment that is no literal matches a text when
the lower-case forms of its pieces occur in the lower-case form of the text: that of some
piece, or those of all (`matchesFragment_findAny_iff`, `matchesFragment_findAll_iff`). So
a fragment matches where one of its pieces does, each taken as a fragment of its own,
unless one of these happens to be a literal.

Only the set of the pieces counts. With more of them, some piece is found more often and
all of them less often (`matchesFragment_pieces_monotone`). The exception is a fragment
without pieces: none of them is missing in any text, and still it matches no text, so that
what asks for all never finds more than what asks for any.

A fragment that is one piece has one phrase. Any of its phrases is then all of them, and
the two modes that look for phrases give the same matches. And since pieces are what the
separators leave, a blank at the end of a fragment makes no difference to them.
-/
import GridFilter.Proofs.Matcher.Literal
import GridFilter.Proofs.Text.Pieces

set_option autoImplicit false

namespace GridFilter

open RegexLiteral (IsAccepted)

variable {fragment : Text}

/-- In the mode that asks for any phrase, a text matches when the lower-case form of
some piece occurs in its own. -/
theorem matchesFragment_findAny (plain : ¬ IsAccepted fragment) (t : Text) :
    matchesFragment t fragment .findAny =
      fragment.pieces.any fun piece => t.lowercase.contains piece.lowercase := by
  rw [matchesFragment_of_not_isAccepted plain, Matcher.ofMode, Matcher.phrases]
  by_cases absent : fragment.pieces = []
  · rw [absent]
    rfl
  · have present : (fragment.pieces.map Text.lowercase).isEmpty = false := by simpa using absent
    rw [present, if_neg Bool.false_ne_true, Matcher.isMatch, List.any_map]
    rfl

theorem matchesFragment_findAny_iff (plain : ¬ IsAccepted fragment) (t : Text) :
    matchesFragment t fragment .findAny = true ↔
      ∃ piece ∈ fragment.pieces, t.lowercase.contains piece.lowercase = true := by
  rw [matchesFragment_findAny plain, List.any_eq_true]

/-- In the mode that asks for all phrases, a text matches when the lower-case forms of all
pieces occur in its own, and there are pieces. -/
theorem matchesFragment_findAll_iff (plain : ¬ IsAccepted fragment) (t : Text) :
    matchesFragment t fragment .findAll = true ↔
      fragment.pieces ≠ [] ∧
        ∀ piece ∈ fragment.pieces, t.lowercase.contains piece.lowercase = true := by
  rw [matchesFragment_of_not_isAccepted plain, Matcher.ofMode, Matcher.phrases]
  by_cases absent : fragment.pieces = []
  · rw [absent]
    simp [Matcher.isMatch]
  · have present : (fragment.pieces.map Text.lowercase).isEmpty = false := by simpa using absent
    rw [present, if_neg Bool.false_ne_true, Matcher.isMatch, List.all_map, List.all_eq_true]
    exact (and_iff_right absent).symm

/-- **A fragment matches where one of its pieces does.** -/
theorem matchesFragment_findAny_eq_any (plain : ¬ IsAccepted fragment)
    (plain_pieces : ∀ piece ∈ fragment.pieces, ¬ IsAccepted piece) (t : Text) :
    matchesFragment t fragment .findAny =
      fragment.pieces.any fun piece => matchesFragment t piece .findAny := by
  rw [matchesFragment_findAny plain, Bool.eq_iff_iff, List.any_eq_true, List.any_eq_true]
  refine exists_congr fun piece => and_congr_right fun hpiece => ?_
  have alone : piece.pieces = [piece] := (Text.isPiece_of_mem_pieces hpiece).pieces_eq
  rw [matchesFragment_findAny (plain_pieces piece hpiece), alone, List.any_cons, List.any_nil,
    Bool.or_false]

/-! ## The set of phrases -/

section Monotone

variable {f g : Text} {t : Text}

/-- More pieces, more chances that one of them occurs. -/
theorem matchesFragment_findAny_mono (plain_f : ¬ IsAccepted f) (plain_g : ¬ IsAccepted g)
    (among : f.pieces ⊆ g.pieces) (h : matchesFragment t f .findAny = true) :
    matchesFragment t g .findAny = true := by
  obtain ⟨piece, hpiece, occurs⟩ := (matchesFragment_findAny_iff plain_f t).1 h
  exact (matchesFragment_findAny_iff plain_g t).2 ⟨piece, among hpiece, occurs⟩

/-- Fewer pieces, fewer that all have to occur, as long as there are any. -/
theorem matchesFragment_findAll_anti (plain_f : ¬ IsAccepted f) (plain_g : ¬ IsAccepted g)
    (among : f.pieces ⊆ g.pieces) (ne : f.pieces ≠ []) (h : matchesFragment t g .findAll = true) :
    matchesFragment t f .findAll = true := by
  obtain ⟨_, all_occur⟩ := (matchesFragment_findAll_iff plain_g t).1 h
  exact (matchesFragment_findAll_iff plain_f t).2
    ⟨ne, fun piece hpiece => all_occur piece (among hpiece)⟩

/-- A fragment without pieces matches nothing, though no piece of it is missing. -/
theorem matchesFragment_of_pieces_eq_nil (plain : ¬ IsAccepted f) (absent : f.pieces = []) :
    matchesFragment t f .findAny = false ∧ matchesFragment t f .findAll = false := by
  constructor
  · rw [matchesFragment_findAny plain, absent]
    rfl
  · rw [← Bool.not_eq_true, matchesFragment_findAll_iff plain]
    rintro ⟨present, _⟩
    exact present absent

/-- Where all phrases occur, one does. -/
theorem matchesFragment_findAny_of_findAll (h : matchesFragment t f .findAll = true) :
    matchesFragment t f .findAny = true := by
  by_cases accepted : IsAccepted f
  · rwa [matchesFragment, Matcher.prepare_of_isAccepted .findAny .findAll accepted]
  · obtain ⟨ne, all_occur⟩ := (matchesFragment_findAll_iff accepted t).1 h
    obtain ⟨piece, hpiece⟩ := List.exists_mem_of_ne_nil _ ne
    exact (matchesFragment_findAny_iff accepted t).2 ⟨piece, hpiece, all_occur piece hpiece⟩

/-- **Matching depends on the set of phrases, and monotonically.** Let `f` and `g` be no
literals. If the pieces of `f` are among those of `g`, then `g` matches where `f` does when
any phrase is asked for, and `f`, if it has pieces, matches where `g` does when all are.
With the same pieces, in whatever order and number, both match alike; without pieces, they
match nothing. And for every fragment, literals included, a match of all phrases is a match
of any. -/
theorem matchesFragment_pieces_monotone (plain_f : ¬ IsAccepted f) (plain_g : ¬ IsAccepted g)
    (t : Text) :
    (f.pieces ⊆ g.pieces →
      (matchesFragment t f .findAny = true → matchesFragment t g .findAny = true) ∧
      (f.pieces ≠ [] → matchesFragment t g .findAll = true →
        matchesFragment t f .findAll = true)) ∧
    ((∀ piece, piece ∈ f.pieces ↔ piece ∈ g.pieces) →
      matchesFragment t f .findAny = matchesFragment t g .findAny ∧
      matchesFragment t f .findAll = matchesFragment t g .findAll) ∧
    (f.pieces = [] →
      matchesFragment t f .findAny = false ∧ matchesFragment t f .findAll = false) ∧
    ∀ fragment : Text, matchesFragment t fragment .findAll = true →
      matchesFragment t fragment .findAny = true := by
  refine ⟨?_, ?_, ?_, ?_⟩
  · intro among
    exact ⟨matchesFragment_findAny_mono plain_f plain_g among,
      matchesFragment_findAll_anti plain_f plain_g among⟩
  · intro same
    have among : f.pieces ⊆ g.pieces := fun piece => (same piece).1
    have among' : g.pieces ⊆ f.pieces := fun piece => (same piece).2
    refine ⟨Bool.eq_iff_iff.2 ⟨matchesFragment_findAny_mono plain_f plain_g among,
      matchesFragment_findAny_mono plain_g plain_f among'⟩, ?_⟩
    by_cases absent : f.pieces = []
    · have absent' : g.pieces = [] := List.subset_nil.1 (absent ▸ among')
      rw [(matchesFragment_of_pieces_eq_nil plain_f absent).2,
        (matchesFragment_of_pieces_eq_nil plain_g absent').2]
    · have present' : g.pieces ≠ [] := fun absent' => absent (List.subset_nil.1 (absent' ▸ among))
      exact Bool.eq_iff_iff.2 ⟨matchesFragment_findAll_anti plain_g plain_f among' present',
        matchesFragment_findAll_anti plain_f plain_g among absent⟩
  · exact matchesFragment_of_pieces_eq_nil plain_f
  · intro fragment
    exact matchesFragment_findAny_of_findAll

/-- Pieces in another order, one of them twice, and one more. -/
theorem matchesFragment_pieces_monotone_reordered :
    matchesFragment "Y, x".toList "y x".toList .findAll = true ∧
    matchesFragment "Y, x".toList "x,,y x z".toList .findAny = true := by
  have plain : ¬ IsAccepted "y x".toList := RegexLiteral.not_isAccepted_of_head? (by decide)
  have plain_more : ¬ IsAccepted "x,,y x z".toList :=
    RegexLiteral.not_isAccepted_of_head? (by decide)
  have all : matchesFragment "Y, x".toList "y x".toList .findAll = true := by decide
  obtain ⟨among, _, _, any⟩ := matchesFragment_pieces_monotone plain plain_more "Y, x".toList
  exact ⟨all, (among (by decide)).1 (any _ all)⟩

end Monotone

/-! ## One phrase, and blanks behind it -/

/-- Some phrase of a fragment occurs exactly if all of them do, when there is only one. -/
theorem Matcher.isMatch_prepare_findAny (hp : fragment.IsPiece) :
    (Matcher.prepare fragment .findAny).1.isMatch =
      (Matcher.prepare fragment .findAll).1.isMatch := by
  by_cases accepted : IsAccepted fragment
  · rw [Matcher.prepare_of_isAccepted .findAny .findAll accepted]
  · funext t
    show matchesFragment t fragment .findAny = matchesFragment t fragment .findAll
    rw [Bool.eq_iff_iff, matchesFragment_findAny_iff accepted,
      matchesFragment_findAll_iff accepted, hp.pieces_eq]
    simp

/-- A blank at the end of a fragment is in none of its phrases. -/
theorem Matcher.prepare_append_blank {mode : MatchMode} (phrased : mode ≠ .findFirst)
    (plain : ¬ IsAccepted fragment) :
    (Matcher.prepare (fragment ++ [' ']) mode).1 = (Matcher.prepare fragment mode).1 := by
  have phrases_eq : Matcher.phrases (fragment ++ [' ']) = Matcher.phrases fragment := by
    rw [Matcher.phrases, Matcher.phrases, Text.pieces_append_gap .blank]
  rw [Matcher.prepare_of_not_isAccepted (RegexLiteral.not_isAccepted_append_blank fragment),
    Matcher.prepare_of_not_isAccepted plain]
  cases mode with
  | findFirst => exact absurd rfl phrased
  | findAny | findAll => rw [Matcher.ofMode, Matcher.ofMode, phrases_eq]

/-- What comes up while a fragment is made ready does not tell the two modes apart. -/
theorem Matcher.prepare_log_findAny (fragment : Text) :
    (Matcher.prepare fragment .findAny).2 = (Matcher.prepare fragment .findAll).2 := by
  rw [Matcher.prepare, Matcher.prepare]
  cases RegexLiteral.compile fragment <;> rfl

end GridFilter
