/-
Phrases that stand in a text as they are.

A phrase that is no expression is compared in lower case: it matches where its lower-case
form occurs in that of the text. One would expect it to match every text that holds it
letter by letter. It does unless it has a capital sigma whose form the phrase leaves open:
alone, `Σ` is `σ`, and in a text it ends a word and is `ς`; a word that ends in `ς` goes on
in a text, where it has a `σ`. `matchesFragment_verbatim_iff` says that these are all the
exceptions.

Expressions are not concerned. They ignore the case of a letter by grouping it with its
variants, and the three sigmas are one group.
-/
import GridFilter.Proofs.Matcher.Phrases
import GridFilter.Proofs.Text.LowercaseParts

set_option autoImplicit false

namespace GridFilter

open RegexLiteral (IsAccepted)

variable {phrase : Text} {mode : MatchMode}

/-- A phrase that is a single piece and neither a literal nor, where expressions are read,
an expression matches where its lower-case form occurs. -/
theorem matchesFragment_eq_contains (hp : phrase.IsPiece) (plain : ¬ IsAccepted phrase)
    (no_expression : mode = .findFirst → Regex.compile? phrase { ignoreCase := true } = none)
    (t : Text) : matchesFragment t phrase mode = t.lowercase.contains phrase.lowercase := by
  cases mode with
  | findFirst =>
    rw [matchesFragment_of_not_isAccepted plain, Matcher.ofMode, no_expression rfl,
      Matcher.isMatch]
  | findAny =>
    rw [matchesFragment_findAny plain, hp.pieces_eq, List.any_cons, List.any_nil, Bool.or_false]
  | findAll =>
    rw [Bool.eq_iff_iff, matchesFragment_findAll_iff plain, hp.pieces_eq, List.forall_mem_singleton]
    exact and_iff_right (List.cons_ne_nil phrase [])

/-- **When a phrase is found wherever it stands.** The phrase is a single piece and no
literal, and in the mode that reads expressions it is none. It matches every text that holds
it exactly if it settles all of its capital sigmas, and so if it has none. And wherever its
lower-case form in a text is the one that it has alone, it matches that text. -/
theorem matchesFragment_verbatim_iff (hp : phrase.IsPiece) (plain : ¬ IsAccepted phrase)
    (no_expression : mode = .findFirst → Regex.compile? phrase { ignoreCase := true } = none) :
    ((∀ before after : Text, matchesFragment (before ++ phrase ++ after) phrase mode = true) ↔
      phrase.SigmasSettled) ∧
    ('Σ' ∉ phrase → phrase.SigmasSettled) ∧
    ∀ before after : Text, Text.lowerWithin before.reverse after phrase = phrase.lowercase →
      matchesFragment (before ++ phrase ++ after) phrase mode = true := by
  simp only [matchesFragment_eq_contains hp plain no_expression]
  exact ⟨Text.forall_contains_lowercase_iff, Text.sigmasSettled_of_not_mem,
    fun _ _ => Text.contains_lowercase_of_lowerWithin⟩

/-- A sigma with a letter behind it, in a phrase that is no expression. -/
theorem matchesFragment_verbatim_iff_inner_sigma :
    let phrase := "(AΣA".toList
    Text.IsPiece phrase ∧ ¬ IsAccepted phrase ∧
      Regex.compile? phrase { ignoreCase := true } = none ∧ Text.SigmasSettled phrase ∧
      ∀ before after : Text,
        matchesFragment (before ++ phrase ++ after) phrase .findFirst = true := by
  intro phrase
  have own_piece : phrase ∈ Text.pieces phrase := by decide
  have piece : Text.IsPiece phrase := Text.isPiece_of_mem_pieces own_piece
  have plain : ¬ IsAccepted phrase := RegexLiteral.not_isAccepted_of_head? (by decide)
  have no_expression : Regex.compile? phrase { ignoreCase := true } = none := by decide
  have settled : Text.SigmasSettled phrase := by decide
  obtain ⟨found_iff, _⟩ := @matchesFragment_verbatim_iff phrase .findFirst piece plain
    fun _ => no_expression
  exact ⟨piece, plain, no_expression, settled, found_iff.2 settled⟩

/-- A sigma that ends a word in the text but not in the phrase is missed in every mode. -/
theorem matchesFragment_verbatim_misses_sigma :
    let phrase := "Σ(".toList
    Text.IsPiece phrase ∧ ¬ IsAccepted phrase ∧
      Regex.compile? phrase { ignoreCase := true } = none ∧
      matchesFragment (['A'] ++ phrase ++ []) phrase .findAny = false ∧
      matchesFragment (['A'] ++ phrase ++ []) phrase .findAll = false ∧
      matchesFragment (['A'] ++ phrase ++ []) phrase .findFirst = false := by
  intro phrase
  have own_piece : phrase ∈ Text.pieces phrase := by decide
  exact ⟨Text.isPiece_of_mem_pieces own_piece,
    RegexLiteral.not_isAccepted_of_head? (by decide), by decide, by decide, by decide, by decide⟩

end GridFilter
