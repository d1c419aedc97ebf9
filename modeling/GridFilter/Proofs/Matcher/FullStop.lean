/-
What a full stop matches.

Read as an expression, a full stop stands for any character but a line feed, so it is
found in every text that holds more than line feeds. In the modes that look for
phrases it stands for itself, and is found in the texts that hold one
(`matchesFragment_fullStop_findFirst`, `matchesFragment_fullStop_of_ne`).

The first half is a statement about searches: an expression that is one class of
characters is found where a character of the class is (`Regex.isMatch_chars`). The
second compares texts in lower case, and rests on lower-casing leaving full stops
alone.
-/
import GridFilter.Proofs.Matcher.Phrases
import GridFilter.Proofs.Text.Lowercase

set_option autoImplicit false

namespace GridFilter

namespace Regex

/-! ## Searching for one character -/

variable {c : CharClass}

/-- A search that is under way has come to its end when the class is marked, and goes
on to look for a character of the class. -/
theorem searchFrom_chars (before : Option Char) (m : Marks) (t : Text) :
    searchFrom (chars c) before m t = (!m.isIdle || t.any c.contains) := by
  induction t generalizing before m with
  | nil => simp [searchFrom, exits]
  | cons d rest ih =>
    rw [searchFrom, ih, List.any_cons]
    by_cases found : c.contains d = true <;> simp [exits, advance, found, Marks.isIdle]

/-- **A class is found where one of its characters is.** -/
theorem isMatch_chars (t : Text) : (chars c).isMatch t = t.any c.contains := by
  rw [isMatch, searchFrom_chars]
  rfl

theorem CharClass.contains_single {a d : Char} : (single a).contains d = true ↔ d = a := by
  rw [single, contains, Bool.and_eq_true, decide_eq_true_iff, decide_eq_true_iff]
  constructor
  · rintro ⟨le, ge⟩
    exact Char.le_antisymm ge le
  · rintro rfl
    exact ⟨Char.le_refl d, Char.le_refl d⟩

theorem compile?_fullStop :
    compile? ['.'] { ignoreCase := true } = some (chars (.compl (.single '\n'))) := rfl

end Regex

/-! ## The full stop in each mode -/

theorem Text.contains_singleton {t : Text} {c : Char} : t.contains [c] = true ↔ c ∈ t := by
  rw [Text.contains_iff, List.mem_iff_append]
  simp only [List.append_assoc, List.singleton_append]

variable {t : Text}

/-- A full stop is no literal. -/
theorem RegexLiteral.not_isAccepted_fullStop : ¬ IsAccepted ['.'] :=
  not_isAccepted_of_head? (by decide)

/-- As an expression, a full stop is found in whatever holds more than line feeds. -/
theorem matchesFragment_fullStop_findFirst :
    matchesFragment t ['.'] .findFirst = true ↔ ∃ c ∈ t, c ≠ '\n' := by
  rw [matchesFragment_findFirst_of_compile? RegexLiteral.not_isAccepted_fullStop
    Regex.compile?_fullStop, Regex.isMatch_chars, List.any_eq_true]
  refine exists_congr fun c => and_congr_right fun _ => ?_
  rw [Regex.CharClass.contains, Bool.not_eq_true', ← Bool.not_eq_true,
    Regex.CharClass.contains_single]

/-- In the other modes, a full stop is found where there is one. -/
theorem matchesFragment_fullStop_of_ne {mode : MatchMode} (h : mode ≠ .findFirst) :
    matchesFragment t ['.'] mode = true ↔ '.' ∈ t := by
  have kept : t.lowercase.contains ['.'] = true ↔ '.' ∈ t := by
    rw [Text.contains_singleton, Text.mem_lowercase_iff (by decide) (by decide)]
  have alone : Text.pieces ['.'] = [['.']] := by decide
  have lower : Text.lowercase ['.'] = ['.'] := by decide
  cases mode with
  | findFirst => exact absurd rfl h
  | findAny =>
    rw [matchesFragment_findAny_iff RegexLiteral.not_isAccepted_fullStop, alone]
    simpa [lower] using kept
  | findAll =>
    rw [matchesFragment_findAll_iff RegexLiteral.not_isAccepted_fullStop, alone]
    simpa [lower] using kept

end GridFilter
