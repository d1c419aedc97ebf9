/-
Trimming.

A text is trimmed when there is no blank at either end, and trimming gives the one
trimmed text that is left when blanks are put back at both ends
(`trim_append_blanks`, `trim_trim`). Files are written with single blanks around
their separators, so this is what makes reading undo the writing.
-/
import GridFilter.Text.Basic
import Mathlib.Data.List.DropRight
import Mathlib.Data.List.TakeWhile

set_option autoImplicit false

namespace GridFilter.Text

/-! ## One end -/

theorem trimEnd_eq_reverse (t : Text) : trimEnd t = (trimStart t.reverse).reverse := rfl

theorem trimStart_suffix_self (t : Text) : trimStart t <:+ t := List.dropWhile_suffix isBlank

theorem trimEnd_prefix_self (t : Text) : trimEnd t <+: t := by
  rw [trimEnd_eq_reverse, ← List.reverse_suffix, List.reverse_reverse]
  exact trimStart_suffix_self t.reverse

/-- What is left begins with no blank. -/
theorem isBlank_of_head?_trimStart {t : Text} {c : Char} (h : (trimStart t).head? = some c) :
    isBlank c = false := by
  have first := List.head?_dropWhile_not isBlank t
  rw [trimStart] at h
  rw [h] at first
  exact first

theorem trimStart_eq_self_iff {t : Text} :
    trimStart t = t ↔ ∀ c, t.head? = some c → isBlank c = false := by
  constructor
  · intro h c hc
    rw [← h] at hc
    exact isBlank_of_head?_trimStart hc
  · intro h
    cases t with
    | nil => rfl
    | cons c t => rw [trimStart, List.dropWhile_cons_of_neg (by simp [h c rfl])]

theorem trimEnd_eq_self_iff {t : Text} :
    trimEnd t = t ↔ ∀ c, t.getLast? = some c → isBlank c = false := by
  rw [trimEnd_eq_reverse, List.reverse_eq_iff, trimStart_eq_self_iff, List.head?_reverse]

/-- Blanks in front make no difference. -/
theorem trimStart_append_of_blank {s t : Text} (h : ∀ c ∈ s, isBlank c = true) :
    trimStart (s ++ t) = trimStart t :=
  List.dropWhile_append_of_pos h

/-- Blanks at the end make no difference. -/
theorem trimEnd_append_of_blank {t u : Text} (h : ∀ c ∈ u, isBlank c = true) :
    trimEnd (t ++ u) = trimEnd t := by
  rw [trimEnd_eq_reverse, List.reverse_append, trimStart_append_of_blank, ← trimEnd_eq_reverse]
  exact fun c hc => h c (List.mem_reverse.1 hc)

/-- What is dropped at the end is blank. -/
theorem exists_blanks_eq_trimEnd_append (t : Text) :
    ∃ u, (∀ c ∈ u, isBlank c = true) ∧ t = trimEnd t ++ u := by
  refine ⟨(t.reverse.takeWhile isBlank).reverse, ?_, ?_⟩
  · exact fun c hc => List.mem_takeWhile_imp (List.mem_reverse.1 hc)
  · rw [trimEnd, ← List.reverse_append, List.takeWhile_append_dropWhile, List.reverse_reverse]

/-! ## Both ends -/

theorem trim_infix_self (t : Text) : trim t <:+: t :=
  (trimEnd_prefix_self (trimStart t)).isInfix.trans (trimStart_suffix_self t).isInfix

theorem mem_of_mem_trim {t : Text} {c : Char} (h : c ∈ trim t) : c ∈ t :=
  (trim_infix_self t).subset h

theorem length_trim_le (t : Text) : (trim t).length ≤ t.length := (trim_infix_self t).length_le

/-- A text is trimmed exactly when it neither begins nor ends with a blank. -/
theorem trim_eq_self_iff {t : Text} :
    trim t = t ↔ (∀ c, t.head? = some c → isBlank c = false) ∧
      ∀ c, t.getLast? = some c → isBlank c = false := by
  rw [← trimStart_eq_self_iff, ← trimEnd_eq_self_iff]
  constructor
  · intro h
    have start_eq : trimStart t = t := by
      refine (trimStart_suffix_self t).eq_of_length_le ?_
      calc t.length = (trim t).length := by rw [h]
        _ ≤ (trimStart t).length := (trimEnd_prefix_self _).length_le
    exact ⟨start_eq, by rwa [trim, start_eq] at h⟩
  · rintro ⟨hs, he⟩
    rw [trim, hs, he]

/-- Blanks at the ends are what trimming takes away, and nothing else. -/
theorem trim_append_blanks {s t u : Text} (hs : ∀ c ∈ s, isBlank c = true)
    (hu : ∀ c ∈ u, isBlank c = true) : trim (s ++ t ++ u) = trim t := by
  rw [trim, List.append_assoc, trimStart_append_of_blank hs, trim]
  by_cases h : trimStart t = []
  · have blank : ∀ c ∈ t ++ u, isBlank c = true := by
      intro c hc
      rcases List.mem_append.1 hc with hc | hc
      · exact List.dropWhile_eq_nil_iff.1 h c hc
      · exact hu c hc
    rw [h, show trimStart (t ++ u) = [] from List.dropWhile_eq_nil_iff.2 blank]
  · have start_eq : trimStart (t ++ u) = trimStart t ++ u := by
      rw [trimStart, List.dropWhile_append, if_neg]
      · rfl
      · rwa [List.isEmpty_iff]
    rw [start_eq, trimEnd_append_of_blank hu]

/-- A text is what trimming leaves of it, with blanks put back at both ends. -/
theorem exists_blanks_eq_append_trim (t : Text) :
    ∃ s u, (∀ c ∈ s, isBlank c = true) ∧ (∀ c ∈ u, isBlank c = true) ∧ t = s ++ trim t ++ u := by
  obtain ⟨u, hu, back⟩ := exists_blanks_eq_trimEnd_append (trimStart t)
  refine ⟨t.takeWhile isBlank, u, fun c hc => List.mem_takeWhile_imp hc, hu, ?_⟩
  calc t = t.takeWhile isBlank ++ trimStart t := List.takeWhile_append_dropWhile.symm
    _ = t.takeWhile isBlank ++ (trim t ++ u) := congrArg _ back
    _ = t.takeWhile isBlank ++ trim t ++ u := (List.append_assoc _ _ _).symm

/-- Nothing is left of blanks, and of blanks only. -/
theorem trim_eq_nil_iff {t : Text} : trim t = [] ↔ ∀ c ∈ t, isBlank c = true := by
  constructor
  · intro h
    obtain ⟨s, u, hs, hu, ht⟩ := exists_blanks_eq_append_trim t
    rw [h, List.append_nil] at ht
    intro c hc
    rw [ht] at hc
    exact (List.mem_append.1 hc).elim (hs c) (hu c)
  · intro h
    have blank : trim (t ++ [] ++ []) = trim [] := trim_append_blanks h (by simp)
    rw [← List.append_nil t, ← List.append_nil (t ++ []), blank]
    rfl

/-- One blank in front. -/
theorem trim_cons_blank {b : Char} (hb : isBlank b = true) (t : Text) : trim (b :: t) = trim t := by
  simpa using trim_append_blanks (s := [b]) (t := t) (u := []) (by simpa using hb) (by simp)

/-- One blank at the end. -/
theorem trim_append_blank {b : Char} (hb : isBlank b = true) (t : Text) :
    trim (t ++ [b]) = trim t := by
  simpa using trim_append_blanks (s := []) (t := t) (u := [b]) (by simp) (by simpa using hb)

/-- What is trimmed is trimmed. -/
theorem trim_trim (t : Text) : trim (trim t) = trim t := by
  refine trim_eq_self_iff.2 ⟨fun c hc => ?_, ?_⟩
  · obtain ⟨rest, hrest⟩ := trimEnd_prefix_self (trimStart t)
    refine isBlank_of_head?_trimStart (t := t) ?_
    rw [← hrest, List.head?_append, show (trimEnd (trimStart t)).head? = some c from hc]
    rfl
  · refine trimEnd_eq_self_iff.1 ?_
    rw [trim, trimEnd_eq_reverse, trimEnd_eq_reverse, List.reverse_reverse]
    exact congrArg List.reverse (List.dropWhile_idempotent isBlank _)

/-- Trimming at one end first makes no difference. -/
theorem trim_trimStart (t : Text) : trim (trimStart t) = trim t :=
  congrArg trimEnd (List.dropWhile_idempotent isBlank t)

theorem trim_trimEnd (t : Text) : trim (trimEnd t) = trim t := by
  obtain ⟨u, blank, back⟩ := exists_blanks_eq_trimEnd_append t
  conv_rhs => rw [back]
  exact (trim_append_blanks (s := []) (by simp) blank).symm

/-- Around a character that is no blank, both sides are trimmed on their own. -/
theorem trim_append_cons {d : Char} (hd : isBlank d = false) (s t : Text) :
    trim (s ++ d :: t) = trimStart s ++ d :: trimEnd t := by
  have stop_start : ∀ u v, trimStart (u ++ d :: v) = trimStart u ++ d :: v := by
    intro u v
    rw [trimStart, List.dropWhile_append]
    split
    · rename_i h
      rw [trimStart, List.isEmpty_iff.1 h, List.dropWhile_cons_of_neg (by simp [hd])]
      rfl
    · rfl
  rw [trim, stop_start, trimEnd_eq_reverse, List.reverse_append, List.reverse_cons,
    List.append_assoc, List.singleton_append, stop_start, trimEnd_eq_reverse]
  simp

end GridFilter.Text
