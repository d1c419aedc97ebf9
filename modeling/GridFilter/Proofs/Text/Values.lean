/-
Texts that can stand in a file as the value of something.

What is written on a line is read back without the blanks around it, so only a
trimmed text on one line comes back as it was. Numbers are such values, and so is
whatever is put together from values with anything that keeps to the line between
them (`IsValue.append`, `IsValue.join`). A list with commas is read back part by
part (`pieces_join_blanks`).
-/
import GridFilter.Proofs.Text.Lines
import GridFilter.Text.Number

set_option autoImplicit false

namespace GridFilter.Text

/-! ## Values -/

/-- A text that can be written on a line of its own and be read back: it is there,
it is trimmed, and it does not run over the end of the line. -/
structure IsValue (t : Text) : Prop where
  ne_nil : t ≠ []
  trim_eq : t.trim = t
  one_line : '\n' ∉ t

namespace IsValue

variable {s t u : Text}

/-- A value in front and a value at the end make a value of all that is between. -/
theorem append (hs : s.IsValue) (ht : '\n' ∉ t) (hu : u.IsValue) : (s ++ t ++ u).IsValue where
  ne_nil := by simp [hs.ne_nil]
  trim_eq := by
    refine trim_eq_self_iff.2 ⟨fun c hc => ?_, fun c hc => ?_⟩
    · rw [List.append_assoc, List.head?_append_of_ne_nil _ hs.ne_nil] at hc
      exact (trim_eq_self_iff.1 hs.trim_eq).1 c hc
    · rw [List.getLast?_append_of_ne_nil _ hu.ne_nil] at hc
      exact (trim_eq_self_iff.1 hu.trim_eq).2 c hc
  one_line := by simp [hs.one_line, ht, hu.one_line]

/-- What is left of a part of a line is a value, unless it is nothing. -/
theorem of_trim (ht : '\n' ∉ t) (h : t.trim ≠ []) : t.trim.IsValue where
  ne_nil := h
  trim_eq := trim_trim t
  one_line := fun hc => ht (mem_of_mem_trim hc)

/-- A value never ends in what a line would lose. -/
theorem getLast?_ne_return (ht : t.IsValue) : t.getLast? ≠ some '\r' := fun h =>
  absurd ((trim_eq_self_iff.1 ht.trim_eq).2 _ h) (by decide)

end IsValue

/-! ## Numbers -/

theorem isBlank_of_isDigit {c : Char} (h : c.isDigit = true) : isBlank c = false := by
  have bounds : 48 ≤ c.toNat ∧ c.toNat ≤ 57 := by
    simpa [Char.isDigit, UInt32.le_iff_toNat_le] using h
  simp only [isBlank, blankRanges, List.any_cons, List.any_nil, Bool.or_eq_false_iff,
    Bool.and_eq_false_iff, decide_eq_false_iff_not, and_true]
  omega

theorem isDigit_of_mem_ofWord {w : UInt64} {c : Char} (h : c ∈ ofWord w) : c.isDigit = true :=
  Nat.isDigit_of_mem_toDigits (by decide) (by decide) h

/-- A number is a value. -/
theorem isValue_ofWord (w : UInt64) : (ofWord w).IsValue where
  ne_nil := Nat.toDigits_ne_nil
  trim_eq := trim_eq_self_iff.2
    ⟨fun _ hc => isBlank_of_isDigit (isDigit_of_mem_ofWord (List.mem_of_head? hc)),
      fun _ hc => isBlank_of_isDigit (isDigit_of_mem_ofWord (List.mem_of_getLast? hc))⟩
  one_line := fun hc => absurd (isDigit_of_mem_ofWord hc) (by decide)

/-! ## Lists -/

/-- Values with something between them are a value, unless there are none. -/
theorem IsValue.join {sep : Text} (hs : '\n' ∉ sep) {parts : List Text}
    (h : ∀ p ∈ parts, p.IsValue) (ne : parts ≠ []) : (Text.join sep parts).IsValue := by
  induction parts with
  | nil => exact absurd rfl ne
  | cons p rest ih =>
    obtain ⟨hp, hrest⟩ := List.forall_mem_cons.1 h
    cases rest with
    | nil => rwa [join_singleton]
    | cons q rest =>
      rw [join_cons_of_ne_nil _ _ (List.cons_ne_nil q rest)]
      exact hp.append hs (ih hrest (List.cons_ne_nil q rest))

/-- A blank in front is trimmed away from the first part. -/
theorem map_trim_splitAll_cons {d b : Char} (hb : isBlank b = true) (hd : b ≠ d) (t : Text) :
    (splitAll d (b :: t)).map trim = (splitAll d t).map trim := by
  rw [splitAll, splitWhere_cons, if_neg (by simpa using hd), ← splitAll]
  cases splitAll d t with
  | nil => rfl
  | cons part parts =>
    simp [trim_cons_blank hb]

/-- Blanks in front are trimmed away from the first part. -/
theorem map_trim_splitAll_append {d : Char} (hd : isBlank d = false) {gap : Text}
    (blank : ∀ b ∈ gap, isBlank b = true) (t : Text) :
    (splitAll d (gap ++ t)).map trim = (splitAll d t).map trim := by
  induction gap with
  | nil => rfl
  | cons b gap ih =>
    obtain ⟨hb, blank⟩ := List.forall_mem_cons.1 blank
    have other : b ≠ d := fun e => by rw [e, hd] at hb; cases hb
    rw [List.cons_append, map_trim_splitAll_cons hb other, ih blank]

/-- **A list with commas is read back part by part**, whatever blanks follow the commas. -/
theorem pieces_join_blanks {gap : Text} (blank : ∀ b ∈ gap, isBlank b = true)
    {parts : List Text} (h : ∀ p ∈ parts, p.IsValue ∧ ',' ∉ p) :
    ((splitAll ',' (join (',' :: gap) parts)).map trim).filter (fun t => !t.isEmpty) = parts := by
  induction parts with
  | nil => rfl
  | cons p rest ih =>
    obtain ⟨⟨hp, comma⟩, hrest⟩ := List.forall_mem_cons.1 h
    have kept : (!p.isEmpty) = true := by simpa using hp.ne_nil
    cases rest with
    | nil =>
      rw [join_singleton, splitAll_eq_singleton comma, List.map_singleton, hp.trim_eq,
        List.filter_cons, if_pos kept, List.filter_nil]
    | cons q rest =>
      have cut : join (',' :: gap) (p :: q :: rest) =
          p ++ ',' :: (gap ++ join (',' :: gap) (q :: rest)) := by
        rw [join_cons_of_ne_nil _ _ (List.cons_ne_nil q rest), List.append_assoc,
          List.cons_append]
      rw [cut, splitAll_append_cons, splitAll_eq_singleton comma, List.singleton_append,
        List.map_cons, hp.trim_eq, map_trim_splitAll_append (by decide) blank,
        List.filter_cons, if_pos kept, ih hrest]

/-- A list of numbers is nothing at all or a value. -/
theorem join_ofWord_cases {sep : Text} (hs : '\n' ∉ sep) (ns : List UInt64) :
    join sep (ns.map ofWord) = [] ∨ (join sep (ns.map ofWord)).IsValue := by
  by_cases empty : ns = []
  · rw [empty]
    exact .inl rfl
  · refine .inr (IsValue.join hs (fun p hp => ?_) (by simpa using empty))
    obtain ⟨n, -, rfl⟩ := List.mem_map.1 hp
    exact isValue_ofWord n

end GridFilter.Text
