/-
What the flags of a literal say.

The letters behind a literal are read one by one. Each changes how the pattern will be
read, and the first one that is unknown or was there before ends it all. Said without
an order, the letters are acceptable if all are flags and no two are the same
(`AcceptableFlags`), and what they ask for depends on which of them are there and on
nothing else (`asked`). Reading them one by one comes to just that
(`readFlags_eq_ok_iff`): the induction carries along the letters that were seen and the
reading that was reached, and one step of it is one letter.

This settles every text that has the form of a literal (`written`). It is accepted when
its letters are acceptable and its pattern is an expression, read as they ask. It then
stands for that expression in every mode; otherwise the mode has it, slashes and all.

The mode that looks for expressions reads a fragment just as a literal with the one flag
`i` has its pattern read. So between slashes, with that flag behind it, the fragment
matches the same texts in all modes (`matchesFragment_findFirst_eq_written`).
-/
import GridFilter.Proofs.Matcher.Literal

set_option autoImplicit false

namespace GridFilter

namespace RegexLiteral

/-! ## Flags without an order -/

/-- The letters that are flags. -/
def flagLetters : List Char := ['i', 'm', 's', 'x', 'U', 'u', 'g', 'y']

/-- All letters are flags, and none is there twice. -/
structure AcceptableFlags (flags : Text) : Prop where
  known : ∀ c ∈ flags, c ∈ flagLetters
  nodup : flags.Nodup

/-- The reading `f` with what the letters ask for on top. The flags that say which match is
found, or where the search goes on, ask for nothing. -/
def askedOnTop (f : Regex.Flags) (flags : Text) : Regex.Flags :=
  { f with
    ignoreCase := f.ignoreCase || decide ('i' ∈ flags)
    multiLine := f.multiLine || decide ('m' ∈ flags)
    dotAll := f.dotAll || decide ('s' ∈ flags)
    spaced := f.spaced || decide ('x' ∈ flags)
    wide := f.wide || decide ('u' ∈ flags) }

/-- The reading of a pattern that the letters behind it ask for. -/
def asked (flags : Text) : Regex.Flags := askedOnTop {} flags

variable {pattern flags others : Text}

theorem AcceptableFlags.nil : AcceptableFlags [] := ⟨by simp, .nil⟩

theorem AcceptableFlags.cons_iff {flag : Char} :
    AcceptableFlags (flag :: flags) ↔
      flag ∈ flagLetters ∧ flag ∉ flags ∧ AcceptableFlags flags := by
  constructor
  · rintro ⟨known, nodup⟩
    obtain ⟨flag_known, flags_known⟩ := List.forall_mem_cons.1 known
    obtain ⟨fresh, distinct⟩ := List.nodup_cons.1 nodup
    exact ⟨flag_known, fresh, flags_known, distinct⟩
  · rintro ⟨flag_known, fresh, flags_known, distinct⟩
    exact ⟨List.forall_mem_cons.2 ⟨flag_known, flags_known⟩, List.nodup_cons.2 ⟨fresh, distinct⟩⟩

/-- Flags are letters. -/
theorem AcceptableFlags.isAlpha (h : AcceptableFlags flags) : ∀ c ∈ flags, c.isAlpha = true := by
  have letters : flagLetters.all Char.isAlpha = true := by decide
  intro c hc
  exact List.all_eq_true.1 letters c (h.known c hc)

theorem askedOnTop_nil (f : Regex.Flags) : askedOnTop f [] = f := by
  simp [askedOnTop]

theorem askedOnTop_cons (f : Regex.Flags) (flag : Char) (flags : Text) :
    askedOnTop f (flag :: flags) = askedOnTop (askedOnTop f [flag]) flags := by
  simp [askedOnTop, Bool.or_assoc]

/-- What is asked for depends on which letters are there; `u` is granted anyway. -/
theorem asked_congr (same : ∀ c ∈ ['i', 'm', 's', 'x', 'U'], c ∈ others ↔ c ∈ flags) :
    asked others = asked flags := by
  simp only [List.forall_mem_cons] at same
  obtain ⟨i, m, s, x, _⟩ := same
  simp only [asked, askedOnTop, i, m, s, x, Bool.true_or]

/-! ## Flags one by one -/

section Reading

variable {fragment : Text} {seen : List Char} {flag : Char} {f g : Regex.Flags}

theorem withFlag?_of_mem (known : flag ∈ flagLetters) :
    withFlag? f flag = some (askedOnTop f [flag]) := by
  simp only [flagLetters, List.mem_cons, List.not_mem_nil, or_false] at known
  rcases known with rfl | rfl | rfl | rfl | rfl | rfl | rfl | rfl <;>
    simp [withFlag?, askedOnTop]

theorem withFlag?_of_not_mem (unknown : flag ∉ flagLetters) : withFlag? f flag = none := by
  unfold withFlag?
  split
  case h_9 => rfl
  all_goals exact absurd (by decide) unknown

/-- **One letter.** It has to be new and a flag; then the rest is read on top of what it
asks for. -/
theorem readFlags_cons_eq_ok_iff :
    readFlags fragment seen f (flag :: flags) = .ok g ↔
      flag ∉ seen ∧ flag ∈ flagLetters ∧
        readFlags fragment (flag :: seen) (askedOnTop f [flag]) flags = .ok g := by
  rw [readFlags]
  by_cases repeated : flag ∈ seen
  · simp [repeated]
  · rw [if_neg (by simpa using repeated)]
    by_cases known : flag ∈ flagLetters
    · rw [withFlag?_of_mem known]
      simp [repeated, known]
    · rw [withFlag?_of_not_mem known]
      simp [known]

/-- **All letters.** They are read if they are acceptable and none was seen before, and
the order in which they came has left no trace. -/
theorem readFlags_eq_ok_iff :
    readFlags fragment seen f flags = .ok g ↔
      AcceptableFlags flags ∧ (∀ c ∈ flags, c ∉ seen) ∧ g = askedOnTop f flags := by
  induction flags generalizing seen f with
  | nil => simp [readFlags, AcceptableFlags.nil, askedOnTop_nil, eq_comm]
  | cons flag flags ih =>
    rw [readFlags_cons_eq_ok_iff, ih, AcceptableFlags.cons_iff, ← askedOnTop_cons]
    constructor
    · rintro ⟨unseen, known, acceptable, later, rfl⟩
      -- `flag` was put on the letters seen, so it does not come again.
      have fresh : flag ∉ flags := fun again => later flag again List.mem_cons_self
      have unseen_later : ∀ c ∈ flags, c ∉ seen :=
        fun c hc before => later c hc (List.mem_cons_of_mem flag before)
      exact ⟨⟨known, fresh, acceptable⟩, List.forall_mem_cons.2 ⟨unseen, unseen_later⟩, rfl⟩
    · rintro ⟨⟨known, fresh, acceptable⟩, unseen, rfl⟩
      obtain ⟨unseen_first, unseen_later⟩ := List.forall_mem_cons.1 unseen
      refine ⟨unseen_first, known, acceptable, fun c hc before => ?_, rfl⟩
      rcases List.mem_cons.1 before with rfl | before
      · exact fresh hc
      · exact unseen_later c hc before

end Reading

/-! ## Literals as they are written -/

/-- A pattern between slashes, and the letters of its flags. -/
def written (pattern flags : Text) : Text := '/' :: pattern ++ '/' :: flags

/-- **Which expression a literal is.** -/
theorem compile_written_eq_ok_iff {r : Regex} (ne : pattern ≠ [])
    (letters : ∀ c ∈ flags, c.isAlpha = true) :
    compile (written pattern flags) = .ok r ↔
      AcceptableFlags flags ∧ Regex.compile? pattern (asked flags) = some r := by
  rw [compile, written, split?_of_form ne letters]
  by_cases acceptable : AcceptableFlags flags
  · have read : readFlags ('/' :: pattern ++ '/' :: flags) [] {} flags = .ok (asked flags) :=
      readFlags_eq_ok_iff.2 ⟨acceptable, fun c _ => List.not_mem_nil, rfl⟩
    simp only [read, acceptable, true_and]
    cases Regex.compile? pattern (asked flags) <;> simp
  · simp only [acceptable, false_and, iff_false]
    cases read : readFlags ('/' :: pattern ++ '/' :: flags) [] {} flags with
    | error reason => simp
    | ok f => exact absurd (readFlags_eq_ok_iff.1 read).1 acceptable

theorem isAccepted_written_iff (ne : pattern ≠ []) (letters : ∀ c ∈ flags, c.isAlpha = true) :
    IsAccepted (written pattern flags) ↔
      AcceptableFlags flags ∧ ∃ r, Regex.compile? pattern (asked flags) = some r := by
  simp only [IsAccepted, compile_written_eq_ok_iff ne letters, exists_and_left]

/-- An accepted literal matches what its expression matches. -/
theorem matchesFragment_written {r : Regex} (ne : pattern ≠ [])
    (acceptable : AcceptableFlags flags)
    (compiled : Regex.compile? pattern (asked flags) = some r) (t : Text) (mode : MatchMode) :
    matchesFragment t (written pattern flags) mode = r.isMatch t := by
  have literal : compile (written pattern flags) = .ok r :=
    (compile_written_eq_ok_iff ne acceptable.isAlpha).2 ⟨acceptable, compiled⟩
  rw [matchesFragment, Matcher.prepare_of_compile mode literal, Matcher.isMatch]

/-- **When a literal is accepted, and what becomes of it.** Let letters stand behind a
pattern between slashes. The whole is a literal exactly if every letter is a flag, no
two are the same, and the pattern is an expression when read as they ask. If so, it
matches in every mode what that expression matches, and so does the pattern with other
acceptable letters, as long as these hold the same ones of `i`, `m`, `s`, `x` and `U`.
If not, it is matched in each mode as any fragment is, as a whole. -/
theorem written_acceptance_modes_order (pattern flags : Text) (ne : pattern ≠ [])
    (letters : ∀ c ∈ flags, c.isAlpha = true) :
    (IsAccepted (written pattern flags) ↔
      flags.Nodup ∧ (∀ c ∈ flags, c ∈ ['i', 'm', 's', 'x', 'U', 'u', 'g', 'y']) ∧
        ∃ r, Regex.compile? pattern (asked flags) = some r) ∧
    (IsAccepted (written pattern flags) →
      ∃ r, Regex.compile? pattern (asked flags) = some r ∧ ∀ (t : Text) (mode : MatchMode),
        matchesFragment t (written pattern flags) mode = r.isMatch t) ∧
    (IsAccepted (written pattern flags) →
      ∀ others : Text, others.Nodup →
        (∀ c ∈ others, c ∈ ['i', 'm', 's', 'x', 'U', 'u', 'g', 'y']) →
        (∀ c ∈ ['i', 'm', 's', 'x', 'U'], c ∈ others ↔ c ∈ flags) →
        ∀ (t : Text) (mode mode' : MatchMode),
          matchesFragment t (written pattern others) mode =
            matchesFragment t (written pattern flags) mode') ∧
    (¬ IsAccepted (written pattern flags) → ∀ (t : Text) (mode : MatchMode),
      matchesFragment t (written pattern flags) mode =
        (Matcher.ofMode (written pattern flags) mode).1.isMatch t) := by
  refine ⟨?_, ?_, ?_, ?_⟩
  · rw [isAccepted_written_iff ne letters]
    constructor
    · rintro ⟨⟨known, nodup⟩, compiled⟩
      exact ⟨nodup, known, compiled⟩
    · rintro ⟨nodup, known, compiled⟩
      exact ⟨⟨known, nodup⟩, compiled⟩
  · intro accepted
    obtain ⟨acceptable, r, compiled⟩ := (isAccepted_written_iff ne letters).1 accepted
    exact ⟨r, compiled, matchesFragment_written ne acceptable compiled⟩
  · intro accepted others nodup known same t mode mode'
    obtain ⟨acceptable, r, compiled⟩ := (isAccepted_written_iff ne letters).1 accepted
    have compiled_others : Regex.compile? pattern (asked others) = some r := by
      rw [asked_congr same, compiled]
    rw [matchesFragment_written ne ⟨known, nodup⟩ compiled_others,
      matchesFragment_written ne acceptable compiled]
  · exact matchesFragment_of_not_isAccepted

/-- Flags in two orders, one of them with a flag more that asks for nothing; and a flag
that is there twice. -/
theorem written_acceptance_modes_order_twice :
    IsAccepted (written ['^', 'b'] ['i', 'm']) ∧
    (∀ (t : Text) (mode mode' : MatchMode),
      matchesFragment t (written ['^', 'b'] ['y', 'm', 'i']) mode =
        matchesFragment t (written ['^', 'b'] ['i', 'm']) mode') ∧
    ¬ IsAccepted (written ['a'] ['i', 'i']) ∧
    ∀ (t : Text) (mode : MatchMode), matchesFragment t (written ['a'] ['i', 'i']) mode =
      (Matcher.ofMode (written ['a'] ['i', 'i']) mode).1.isMatch t := by
  have letters : ∀ c ∈ ['i', 'm'], c.isAlpha = true := List.all_eq_true.1 (by decide)
  have letters_twice : ∀ c ∈ ['i', 'i'], c.isAlpha = true := List.all_eq_true.1 (by decide)
  obtain ⟨acceptance, _, order, _⟩ :=
    written_acceptance_modes_order ['^', 'b'] ['i', 'm'] (by decide) letters
  obtain ⟨acceptance_twice, _, _, whole⟩ :=
    written_acceptance_modes_order ['a'] ['i', 'i'] (by decide) letters_twice
  have accepted : IsAccepted (written ['^', 'b'] ['i', 'm']) :=
    acceptance.2 ⟨by decide, by simp, _, rfl⟩
  have refused : ¬ IsAccepted (written ['a'] ['i', 'i']) := by
    intro accepted
    exact absurd (acceptance_twice.1 accepted).1 (by decide)
  exact ⟨accepted, order accepted ['y', 'm', 'i'] (by decide) (by simp) (by simp), refused,
    whole refused⟩

/-! ## The mode that looks for expressions -/

/-- **An expression is a literal with the flag `i`.** A fragment that is no literal
itself, but an expression with the case ignored, matches in the mode that looks for
expressions what it matches between slashes, with that flag behind it, in any mode. The
fragment may hold slashes, and may have the form of a literal. -/
theorem matchesFragment_findFirst_eq_written {fragment : Text} (ne : fragment ≠ [])
    (plain : ¬ IsAccepted fragment)
    (expression : ∃ r, Regex.compile? fragment { ignoreCase := true } = some r)
    (t : Text) (mode : MatchMode) :
    matchesFragment t fragment .findFirst = matchesFragment t (written fragment ['i']) mode := by
  obtain ⟨r, compiled⟩ := expression
  have flag : AcceptableFlags ['i'] := ⟨by simp [flagLetters], by simp⟩
  have asks : asked ['i'] = { ignoreCase := true } := by decide
  rw [matchesFragment_findFirst_of_compile? plain compiled,
    matchesFragment_written ne flag (by rw [asks, compiled])]

/-- A text with the form of a literal, but with a letter that is no flag. -/
theorem matchesFragment_findFirst_eq_written_path :
    ¬ IsAccepted "/a/q".toList ∧ ∀ (t : Text) (mode : MatchMode),
      matchesFragment t "/a/q".toList .findFirst =
        matchesFragment t (written "/a/q".toList ['i']) mode := by
  have plain : ¬ IsAccepted "/a/q".toList := by
    intro accepted
    have form : ∀ c ∈ ['q'], c.isAlpha = true := List.forall_mem_singleton.2 (by decide)
    obtain ⟨acceptable, _⟩ := (isAccepted_written_iff (List.cons_ne_nil 'a' []) form).1 accepted
    exact absurd (acceptable.known 'q' List.mem_cons_self) (by decide)
  exact ⟨plain, matchesFragment_findFirst_eq_written (by decide) plain ⟨_, rfl⟩⟩

end RegexLiteral

end GridFilter
