/-
Fragments that are literals, and fragments that are not.

A fragment that is an acceptable regular-expression literal is one in every mode. All
others are matched as the mode says, so whatever is proved about a mode is proved
about fragments that are not accepted as literals. Most fragments show that they are
none by their first character, and some by their last: a blank at the end is neither
the slash nor a flag that a literal ends in.

Before any of that a fragment has to have the form of a literal (`HasForm`). The pattern
may hold slashes and may end in one, so the text alone does not show which slash is the
second one. It is the last one, because no letter is a slash, and this is why a text has
the form in at most one way (`form_recognised_uniquely`).
-/
import GridFilter.Matcher

set_option autoImplicit false

namespace GridFilter

namespace RegexLiteral

/-! ## The form of a literal -/

/-- A text of the form of a literal is a pattern between two slashes, and letters. -/
theorem form_of_split? {fragment pattern flags : Text}
    (h : split? fragment = some (pattern, flags)) :
    fragment = '/' :: pattern ++ '/' :: flags ∧ pattern ≠ [] ∧ ∀ c ∈ flags, c.isAlpha = true := by
  unfold split? at h
  split at h
  · rename_i body
    obtain ⟨cut, acceptable⟩ := Option.filter_eq_some_iff.1 h
    obtain ⟨whole, _⟩ := Text.splitLast?_eq_some_iff.1 cut
    rw [Bool.and_eq_true, Bool.not_eq_true', List.isEmpty_eq_false_iff, List.all_eq_true]
      at acceptable
    exact ⟨by rw [whole, List.cons_append], acceptable⟩
  · exact absurd h (by simp)

/-- The cut is at the second slash even if the pattern holds slashes, since no letter is
one. -/
theorem split?_of_form {pattern flags : Text} (ne : pattern ≠ [])
    (letters : ∀ c ∈ flags, c.isAlpha = true) :
    split? ('/' :: pattern ++ '/' :: flags) = some (pattern, flags) := by
  have no_slash : '/' ∉ flags := by
    intro slash
    exact absurd (letters '/' slash) (by decide)
  have cut : Text.splitLast? '/' (pattern ++ '/' :: flags) = some (pattern, flags) :=
    Text.splitLast?_eq_some_iff.2 ⟨rfl, no_slash⟩
  rw [List.cons_append, split?, cut, Option.filter_some, if_pos]
  rw [Bool.and_eq_true, Bool.not_eq_true', List.isEmpty_eq_false_iff, List.all_eq_true]
  exact ⟨ne, letters⟩

/-- The letters that stand for flags are those of ASCII. -/
theorem isAlpha_iff_range {c : Char} :
    c.isAlpha = true ↔ ('a' ≤ c ∧ c ≤ 'z') ∨ ('A' ≤ c ∧ c ≤ 'Z') := by
  have upper : c.isUpper = true ↔ 'A' ≤ c ∧ c ≤ 'Z' := decide_eq_true_iff
  have lower : c.isLower = true ↔ 'a' ≤ c ∧ c ≤ 'z' :=
    Bool.and_eq_true_iff.trans (and_congr decide_eq_true_iff decide_eq_true_iff)
  rw [or_comm, ← upper, ← lower]
  exact Bool.or_eq_true_iff

/-- The fragment is this pattern between slashes and these flags: the pattern is not empty,
and the flags are ASCII letters, if there are any. -/
structure HasForm (fragment pattern flags : Text) : Prop where
  whole : fragment = '/' :: pattern ++ '/' :: flags
  pattern_ne_nil : pattern ≠ []
  letters : ∀ c ∈ flags, ('a' ≤ c ∧ c ≤ 'z') ∨ ('A' ≤ c ∧ c ≤ 'Z')

section Form

variable {fragment pattern flags pattern' flags' : Text}

/-- **The cut finds the form and nothing else.** -/
theorem split?_eq_some_iff_hasForm :
    split? fragment = some (pattern, flags) ↔ HasForm fragment pattern flags := by
  constructor
  · intro cut
    obtain ⟨whole, ne, letters⟩ := form_of_split? cut
    exact ⟨whole, ne, fun c hc => isAlpha_iff_range.1 (letters c hc)⟩
  · rintro ⟨rfl, ne, letters⟩
    exact split?_of_form ne fun c hc => isAlpha_iff_range.2 (letters c hc)

/-- A fragment has the form in at most one way, since the cut finds any. -/
theorem HasForm.unique (h : HasForm fragment pattern flags)
    (h' : HasForm fragment pattern' flags') : pattern = pattern' ∧ flags = flags' := by
  have cut := split?_eq_some_iff_hasForm.2 h
  rw [split?_eq_some_iff_hasForm.2 h', Option.some.injEq, Prod.mk.injEq] at cut
  exact ⟨cut.1.symm, cut.2.symm⟩

/-- What is not cut has the form in no way. -/
theorem split?_eq_none_iff_not_hasForm :
    split? fragment = none ↔ ∀ pattern flags, ¬ HasForm fragment pattern flags := by
  simp only [Option.eq_none_iff_forall_ne_some, Prod.forall, ne_eq, split?_eq_some_iff_hasForm]

end Form

/-- **Literals are recognised by their form, and in one way.** A fragment is cut into a
pattern and flags exactly if it is this pattern, not empty, between slashes, with these ASCII
letters behind it. So a literal is cut into what it was made of, whatever slashes its pattern
holds; no other pattern and flags make up the same fragment; and a fragment that has the
form in no way is not cut. -/
theorem form_recognised_uniquely (fragment : Text) :
    (∀ pattern flags,
      split? fragment = some (pattern, flags) ↔ HasForm fragment pattern flags) ∧
    (∀ pattern flags pattern' flags', HasForm fragment pattern flags →
      HasForm fragment pattern' flags' → pattern = pattern' ∧ flags = flags') ∧
    (split? fragment = none ↔ ∀ pattern flags, ¬ HasForm fragment pattern flags) :=
  ⟨fun _ _ => split?_eq_some_iff_hasForm, fun _ _ _ _ => HasForm.unique,
    split?_eq_none_iff_not_hasForm⟩

/-- A pattern with a slash inside and one at its end. -/
theorem form_recognised_uniquely_inner_slashes :
    HasForm "/a/b//gi".toList "a/b/".toList "gi".toList ∧
      split? "/a/b//gi".toList = some ("a/b/".toList, "gi".toList) ∧
      ∀ pattern flags, HasForm "/a/b//gi".toList pattern flags →
        pattern = "a/b/".toList ∧ flags = "gi".toList := by
  have letters : "gi".toList.all Char.isAlpha = true := by decide
  have form : HasForm "/a/b//gi".toList "a/b/".toList "gi".toList :=
    ⟨by decide, by decide, fun c hc => isAlpha_iff_range.1 (List.all_eq_true.1 letters c hc)⟩
  obtain ⟨cut, unique, _⟩ := form_recognised_uniquely "/a/b//gi".toList
  exact ⟨form, (cut _ _).2 form, fun pattern flags h => unique _ _ _ _ h form⟩

/-- No pattern stands between two slashes that are neighbours, and a digit is no flag. -/
example : split? "//i".toList = none ∧ split? "/a/1".toList = none := by decide

/-! ## Fragments that are no literals -/

/-- The fragment is a literal with flags and a pattern that are acceptable. -/
def IsAccepted (fragment : Text) : Prop := ∃ r, compile fragment = .ok r

/-- A literal begins with a slash. -/
theorem not_isAccepted_of_head? {fragment : Text} (h : fragment.head? ≠ some '/') :
    ¬ IsAccepted fragment := by
  have shapeless : split? fragment = none := by
    unfold split?
    split
    · exact absurd rfl h
    · rfl
  rintro ⟨r, accepted⟩
  rw [compile, shapeless] at accepted
  exact absurd accepted (by simp)

/-- A literal ends in the second slash or in a letter, so never in a blank. -/
theorem not_isAccepted_append_blank (fragment : Text) : ¬ IsAccepted (fragment ++ [' ']) := by
  rintro ⟨r, accepted⟩
  cases form : split? (fragment ++ [' ']) with
  | none =>
    rw [compile, form] at accepted
    exact absurd accepted (by simp)
  | some parts =>
    obtain ⟨pattern, flags⟩ := parts
    obtain ⟨whole, _, letters⟩ := form_of_split? form
    have last : ('/' :: flags).getLast? = some ' ' := by
      have ends : (fragment ++ [' ']).getLast? = some ' ' := List.getLast?_concat
      rwa [whole, List.getLast?_append, List.getLast?_cons, Option.some_or,
        ← List.getLast?_cons] at ends
    rcases List.mem_cons.1 (List.mem_of_getLast? last) with slash | flag
    · exact absurd slash (by decide)
    · exact absurd (letters ' ' flag) (by decide)

end RegexLiteral

/-! ## Literals in all modes -/

/-- A literal is its expression, whatever the mode. -/
theorem Matcher.prepare_of_compile {fragment : Text} {r : Regex} (mode : MatchMode)
    (compiled : RegexLiteral.compile fragment = .ok r) :
    Matcher.prepare fragment mode = (.regex r, []) := by
  rw [Matcher.prepare, compiled]

/-- So a literal matches the same texts in all modes. -/
theorem Matcher.prepare_of_isAccepted {fragment : Text} (mode mode' : MatchMode)
    (accepted : RegexLiteral.IsAccepted fragment) :
    Matcher.prepare fragment mode = Matcher.prepare fragment mode' := by
  obtain ⟨r, compiled⟩ := accepted
  rw [prepare_of_compile mode compiled, prepare_of_compile mode' compiled]

/-- What is no literal is matched as the mode says. -/
theorem Matcher.prepare_of_not_isAccepted {fragment : Text} {mode : MatchMode}
    (plain : ¬ RegexLiteral.IsAccepted fragment) :
    (Matcher.prepare fragment mode).1 = (Matcher.ofMode fragment mode).1 := by
  cases h : RegexLiteral.compile fragment with
  | ok r => exact absurd ⟨r, h⟩ plain
  | error reason => rw [Matcher.prepare, h]

/-- So are its matches. -/
theorem matchesFragment_of_not_isAccepted {fragment : Text}
    (plain : ¬ RegexLiteral.IsAccepted fragment) (t : Text) (mode : MatchMode) :
    matchesFragment t fragment mode = (Matcher.ofMode fragment mode).1.isMatch t := by
  rw [matchesFragment, Matcher.prepare_of_not_isAccepted plain]

/-- In the mode that looks for expressions, what is no literal is one, with the case
ignored, if it can be. -/
theorem matchesFragment_findFirst_of_compile? {fragment : Text} {r : Regex}
    (plain : ¬ RegexLiteral.IsAccepted fragment)
    (compiled : Regex.compile? fragment { ignoreCase := true } = some r) (t : Text) :
    matchesFragment t fragment .findFirst = r.isMatch t := by
  rw [matchesFragment_of_not_isAccepted plain, Matcher.ofMode, compiled, Matcher.isMatch]

end GridFilter
