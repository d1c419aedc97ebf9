/-
Texts as lists of characters.

Everything this library reads is short and is read from front to back: queries,
cells, lines of a table, values of a setting. A text is therefore the list of
its characters, so that every operation below is a fold or a recursion over the
characters themselves and its laws are the laws of lists.

The operations are the few that the file formats share. A blank is a character
with the Unicode property White_Space; a line ends with a line feed, and a
carriage return directly before that line feed belongs to the ending.
-/

set_option autoImplicit false

namespace GridFilter

/-- A text is the list of its characters. -/
abbrev Text := List Char

namespace Text

/-! ## Blanks -/

/-- The runs of code points with the property White_Space. -/
def blankRanges : List (Nat × Nat) :=
  [(0x09, 0x0D), (0x20, 0x20), (0x85, 0x85), (0xA0, 0xA0), (0x1680, 0x1680),
   (0x2000, 0x200A), (0x2028, 0x2029), (0x202F, 0x202F), (0x205F, 0x205F), (0x3000, 0x3000)]

/-- Whether a character counts as white space. -/
def isBlank (c : Char) : Bool :=
  blankRanges.any fun (lo, hi) => lo ≤ c.toNat && c.toNat ≤ hi

/-- Drops the blanks in front. -/
def trimStart (t : Text) : Text := t.dropWhile isBlank

/-- Drops the blanks at the end. -/
def trimEnd (t : Text) : Text := (t.reverse.dropWhile isBlank).reverse

/-- Drops the blanks at both ends. -/
def trim (t : Text) : Text := trimEnd (trimStart t)

/-! ## Cutting and joining -/

/-- Cuts a text at every character that `p` selects. There is one part more
than there are cuts, and a part may be empty. -/
def splitWhere (p : Char → Bool) (t : Text) : List Text :=
  t.foldr (fun c parts =>
    if p c then [] :: parts
    else match parts with
      | [] => [[c]]
      | part :: parts => (c :: part) :: parts) [[]]

@[simp]
theorem splitWhere_nil (p : Char → Bool) : splitWhere p [] = [[]] := rfl

theorem splitWhere_ne_nil (p : Char → Bool) (t : Text) : splitWhere p t ≠ [] := by
  cases t with
  | nil => simp
  | cons c t =>
    show (if p c then [] :: splitWhere p t else match splitWhere p t with
      | [] => [[c]]
      | part :: parts => (c :: part) :: parts) ≠ []
    split
    · simp
    · split <;> simp

theorem splitWhere_cons (p : Char → Bool) (c : Char) (t : Text) :
    splitWhere p (c :: t) =
      if p c then [] :: splitWhere p t else (splitWhere p t).modifyHead (c :: ·) := by
  show (if p c then [] :: splitWhere p t else match splitWhere p t with
    | [] => [[c]]
    | part :: parts => (c :: part) :: parts) = _
  split
  · rfl
  · cases h : splitWhere p t with
    | nil => exact absurd h (splitWhere_ne_nil p t)
    | cons part parts => rfl

/-- Cutting at a selected character cuts the text on its left and the text on its
right, and nothing else. -/
theorem splitWhere_append_cons (p : Char → Bool) (s t : Text) (d : Char) (hd : p d = true) :
    splitWhere p (s ++ d :: t) = splitWhere p s ++ splitWhere p t := by
  induction s with
  | nil => simp [splitWhere_cons, hd]
  | cons c s ih =>
    rw [List.cons_append, splitWhere_cons, splitWhere_cons, ih]
    split
    · rfl
    · cases h : splitWhere p s with
      | nil => exact absurd h (splitWhere_ne_nil p s)
      | cons part parts => rfl

/-- No part holds a selected character. -/
theorem not_of_mem_splitWhere {p : Char → Bool} {t part : Text} {c : Char}
    (hpart : part ∈ splitWhere p t) (hc : c ∈ part) : p c = false := by
  induction t generalizing part with
  | nil => simp_all
  | cons d t ih =>
    rw [splitWhere_cons] at hpart
    split at hpart
    · rcases List.mem_cons.1 hpart with rfl | hpart
      · simp at hc
      · exact ih hpart hc
    · rename_i hd
      cases h : splitWhere p t with
      | nil => exact absurd h (splitWhere_ne_nil p t)
      | cons first parts =>
        rw [h] at hpart ih
        rcases List.mem_cons.1 hpart with rfl | hpart
        · rcases List.mem_cons.1 hc with rfl | hc
          · simpa using hd
          · exact ih List.mem_cons_self hc
        · exact ih (List.mem_cons_of_mem _ hpart) hc

/-- A text without selected characters is its own only part. -/
theorem splitWhere_eq_singleton {p : Char → Bool} {t : Text} (h : ∀ c ∈ t, p c = false) :
    splitWhere p t = [t] := by
  induction t with
  | nil => rfl
  | cons c t ih =>
    rw [splitWhere_cons, ih fun d hd => h d (List.mem_cons_of_mem _ hd),
      h c List.mem_cons_self]
    rfl

/-- Cuts a text at every occurrence of `d`. -/
def splitAll (d : Char) (t : Text) : List Text := splitWhere (· == d) t

/-- What stands before and after the first `d`, if there is one. -/
def splitFirst? (d : Char) (t : Text) : Option (Text × Text) :=
  match t.dropWhile (· != d) with
  | [] => none
  | _ :: rest => some (t.takeWhile (· != d), rest)

/-- The first cut is where the character stands and nothing before it is that
character. -/
theorem splitFirst?_eq_some_iff {d : Char} {t before after : Text} :
    splitFirst? d t = some (before, after) ↔ t = before ++ d :: after ∧ d ∉ before := by
  induction t generalizing before with
  | nil => simp [splitFirst?]
  | cons c t ih =>
    by_cases hc : c = d
    · subst hc
      cases before with
      | nil => simp [splitFirst?]
      | cons b before =>
        simp only [splitFirst?, List.dropWhile, List.takeWhile, bne_self_eq_false]
        constructor
        · simp
        · rintro ⟨h, hb⟩
          simp_all
    · have hne : (c != d) = true := by simpa using hc
      have step : splitFirst? d (c :: t) =
          (splitFirst? d t).map fun (before, after) => (c :: before, after) := by
        simp only [splitFirst?, List.dropWhile, List.takeWhile, hne]
        cases t.dropWhile (· != d) <;> rfl
      rw [step]
      cases before with
      | nil =>
        simp only [Option.map_eq_some_iff, Prod.mk.injEq, List.nil_append, List.cons.injEq]
        constructor
        · rintro ⟨_, _, h, _⟩; simp at h
        · rintro ⟨⟨h, _⟩, _⟩; exact absurd h hc
      | cons b before =>
        simp only [Option.map_eq_some_iff, Prod.mk.injEq, List.cons_append, List.cons.injEq,
          List.mem_cons, not_or]
        constructor
        · rintro ⟨⟨x, y⟩, h, ⟨rfl, rfl⟩, rfl⟩
          have := ih.1 h
          exact ⟨⟨rfl, this.1⟩, fun e => hc e.symm, this.2⟩
        · rintro ⟨⟨rfl, h⟩, _, hb⟩
          exact ⟨(before, after), ih.2 ⟨h, hb⟩, ⟨rfl, rfl⟩, rfl⟩

/-- What stands before and after the last `d`, if there is one. -/
def splitLast? (d : Char) (t : Text) : Option (Text × Text) :=
  (splitFirst? d t.reverse).map fun (after, before) => (before.reverse, after.reverse)

/-- The last cut is where the character stands and nothing after it is that
character. -/
theorem splitLast?_eq_some_iff {d : Char} {t before after : Text} :
    splitLast? d t = some (before, after) ↔ t = before ++ d :: after ∧ d ∉ after := by
  simp only [splitLast?, Option.map_eq_some_iff, Prod.mk.injEq]
  constructor
  · rintro ⟨⟨x, y⟩, h, rfl, rfl⟩
    obtain ⟨ht, hx⟩ := splitFirst?_eq_some_iff.1 h
    refine ⟨?_, by simpa using hx⟩
    rw [← List.reverse_reverse t, ht]
    simp
  · rintro ⟨rfl, h⟩
    exact ⟨(after.reverse, before.reverse),
      splitFirst?_eq_some_iff.2 ⟨by simp, by simpa using h⟩, by simp, by simp⟩

/-- Joins parts with `sep` between neighbours. -/
def join (sep : Text) (parts : List Text) : Text := List.intercalate sep parts

theorem join_cons_of_ne_nil (sep part : Text) {parts : List Text} (h : parts ≠ []) :
    join sep (part :: parts) = part ++ sep ++ join sep parts := by
  cases parts with
  | nil => exact absurd rfl h
  | cons next parts => simp [join, List.intercalate]

/-- Joining what was cut at a character gives the text back. -/
theorem join_splitAll (d : Char) (t : Text) : join [d] (splitAll d t) = t := by
  induction t with
  | nil => rfl
  | cons c t ih =>
    rw [splitAll, splitWhere_cons]
    split
    · rename_i hc
      rw [join_cons_of_ne_nil _ _ (splitWhere_ne_nil _ t), ← splitAll, ih]
      simp [eq_of_beq hc]
    · rw [splitAll] at ih
      cases h : splitWhere (· == d) t with
      | nil => exact absurd h (splitWhere_ne_nil _ t)
      | cons part parts =>
        rw [h] at ih
        cases parts with
        | nil => simpa [join, List.intercalate] using ih
        | cons next parts => simpa [join, List.intercalate] using ih

/-! ## Lines -/

/-- A line without the carriage return that ends it, if there is one. -/
def dropReturn (line : Text) : Text :=
  match line.reverse with
  | '\r' :: rest => rest.reverse
  | _ => line

/-- Turns the parts between line feeds into lines. All parts but the last were
ended by a line feed; the last is a line only if it holds anything, and keeps a
carriage return of its own. -/
def endLines : List Text → List Text
  | [] => []
  | [last] => if last.isEmpty then [] else [last]
  | part :: parts => dropReturn part :: endLines parts

/-- The lines of a text, without their endings. -/
def lines (t : Text) : List Text := endLines (splitAll '\n' t)

/-! ## Comparing -/

/-- The text with its ASCII letters in lower case. -/
def asciiLower (t : Text) : Text := t.map Char.toLower

/-- Whether two texts differ at most in the case of ASCII letters. -/
def equalsIgnoringCase (s t : Text) : Bool := asciiLower s == asciiLower t

/-- Whether `needle` occurs in the text. -/
def contains (t needle : Text) : Bool :=
  match t with
  | [] => needle.isEmpty
  | c :: rest => needle.isPrefixOf (c :: rest) || contains rest needle

/-- A text occurs in another if the other is made of something, it, and something. -/
theorem contains_iff {t needle : Text} :
    contains t needle = true ↔ ∃ before after, t = before ++ needle ++ after := by
  induction t with
  | nil =>
    simp [contains, List.isEmpty_iff]
  | cons c t ih =>
    simp only [contains, Bool.or_eq_true, List.isPrefixOf_iff_prefix, ih]
    constructor
    · rintro (⟨after, h⟩ | ⟨before, after, h⟩)
      · exact ⟨[], after, h.symm⟩
      · exact ⟨c :: before, after, by simp [h]⟩
    · rintro ⟨before, after, h⟩
      cases before with
      | nil => exact .inl ⟨after, by simpa using h.symm⟩
      | cons b before =>
        rw [List.cons_append, List.cons_append, List.cons.injEq] at h
        exact .inr ⟨before, after, h.2⟩

end Text

end GridFilter
