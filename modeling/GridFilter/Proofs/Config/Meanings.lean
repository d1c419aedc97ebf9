/-
What the values of settings mean.

A value is a name, a number or a quick item, and what it means is said here as one would say it
to somebody who writes a settings file: which words stand for a mode, what a number looks like,
and where a quick item is cut. None of this refers to the reader. That the reader finds just
these meanings is proved once for each kind of value, and from then on the meanings can be used
in its place (`MatchMode.read_eq_ok_iff`, `Text.readWord?_eq_some_iff`,
`QuickItem.read?_eq_some_iff_listedBy`).

A value has one meaning at most; this is inherited from the reader.
-/
import GridFilter.Proofs.Config.Settings

set_option autoImplicit false

namespace GridFilter

/-! ## Modes -/

/-- The value is one of these words. Outer blanks and the case of ASCII letters do not
count. -/
def Text.IsOneOf (value : Text) (words : List String) : Prop :=
  value.trim.asciiLower ∈ words.map String.toList

namespace MatchMode

/-- The value names the mode. -/
def NamedBy (value : Text) : MatchMode → Prop
  | findFirst => value.IsOneOf ["find_first", "first", "filtertablefind"]
  | findAny => value.IsOneOf ["find_any", "any", "filtertablefindany"]
  | findAll => value.IsOneOf ["find_all", "all", "filtertablefindall"]

variable {value : Text} {m : MatchMode}

theorem namedBy_iff : m.NamedBy value ↔ value.trim.asciiLower ∈ m.names.map String.toList := by
  cases m <;> exact Iff.rfl

/-- No word stands for two modes. -/
theorem eq_of_mem_names {m' : MatchMode} :
    ∀ word ∈ m.names.map String.toList, word ∈ m'.names.map String.toList → m = m' := by
  cases m <;> cases m' <;> decide +kernel

theorem NamedBy.unique {m' : MatchMode} (h : m.NamedBy value) (h' : m'.NamedBy value) :
    m = m' :=
  eq_of_mem_names _ (namedBy_iff.1 h) (namedBy_iff.1 h')

/-- **Reading finds the mode that is named.** -/
theorem read_eq_ok_iff : read value = .ok m ↔ m.NamedBy value := by
  have named (k : MatchMode) :
      (k.names.any fun word => word.toList == value.trim.asciiLower) = true ↔ k.NamedBy value := by
    simp [namedBy_iff]
  rw [read]
  cases found : [findFirst, findAny, findAll].find? fun k =>
      k.names.any (·.toList == value.trim.asciiLower) with
  | none =>
    refine iff_of_false (by simp) fun h => ?_
    have all_refused := List.find?_eq_none.1 found m (by cases m <;> decide)
    exact all_refused ((named m).2 h)
  | some k =>
    -- The first mode that answers to the word is the only one.
    have k_named : k.NamedBy value := by
      rw [← named, List.find?_some found]
    rw [Except.ok.injEq]
    exact ⟨fun same => same ▸ k_named, k_named.unique⟩

end MatchMode

/-! ## Numbers -/

namespace Text

/-- The value is this number in decimal: digits, perhaps with one plus sign in front. -/
def IsNumber (value : Text) (n : UInt64) : Prop :=
  ∃ digits, (value = digits ∨ value = '+' :: digits) ∧ digits ≠ [] ∧
    (∀ c ∈ digits, c.isDigit = true) ∧ Nat.ofDigitChars 10 digits 0 = n.toNat

theorem readNat?_eq_some_iff {t : Text} {n : Nat} :
    readNat? t = some n ↔
      t ≠ [] ∧ (∀ c ∈ t, c.isDigit = true) ∧ Nat.ofDigitChars 10 t 0 = n := by
  rw [← List.all_eq_true, readNat?]
  cases t with
  | nil => simp
  | cons c rest => cases (c :: rest).all Char.isDigit <;> simp

/-- **Reading finds the number.** -/
theorem readWord?_eq_some_iff {value : Text} {n : UInt64} :
    value.readWord? = some n ↔ value.IsNumber n := by
  have fits (k : Nat) :
      (if h : k < UInt64.size then some (UInt64.ofNatLT k h) else none) = some n ↔
        k = n.toNat := by
    rw [Option.dite_none_right_eq_some]
    constructor
    · rintro ⟨small, same⟩
      rw [← Option.some.inj same, UInt64.toNat_ofNatLT]
    · rintro rfl
      exact ⟨n.toNat_lt_size, congrArg some (UInt64.ofNatLT_toNat n)⟩
  have read_iff : value.readWord? = some n ↔ readNat? value.dropPlus = some n.toNat := by
    simp only [readWord?, Option.bind_eq_bind, Option.bind_eq_some_iff, fits, exists_eq_right]
  rw [read_iff, readNat?_eq_some_iff]
  constructor
  · rintro ⟨there, digits, number⟩
    refine ⟨value.dropPlus, ?_, there, digits, number⟩
    unfold dropPlus
    split
    · exact .inr rfl
    · exact .inl rfl
  · rintro ⟨digits, rfl | rfl, there, all_digits, number⟩
    -- A plus sign is no digit, so where there is none, nothing is dropped.
    · rw [dropPlus_eq_self all_digits]
      exact ⟨there, all_digits, number⟩
    · exact ⟨there, all_digits, number⟩

theorem IsNumber.unique {value : Text} {m n : UInt64} (hm : value.IsNumber m)
    (hn : value.IsNumber n) : m = n :=
  Option.some.inj ((readWord?_eq_some_iff.2 hm).symm.trans (readWord?_eq_some_iff.2 hn))

theorem IsNumber.iff_eq {value : Text} {m n : UInt64} (hm : value.IsNumber m) :
    value.IsNumber n ↔ n = m :=
  ⟨fun hn => hn.unique hm, fun same => same ▸ hm⟩

theorem IsNumber.ne_nil {value : Text} {n : UInt64} (h : value.IsNumber n) : value ≠ [] := by
  obtain ⟨digits, rfl | rfl, there, -⟩ := h
  · exact there
  · exact List.cons_ne_nil _ _

end Text

/-! ## Tags -/

/-- The tag that a value gives: the value itself, or none if it is empty. -/
def Text.MeansTag (value : Text) (tag : Option Text) : Prop :=
  tag = if value = [] then none else some value

theorem Text.MeansTag.unique {value : Text} {s t : Option Text} (hs : value.MeansTag s)
    (ht : value.MeansTag t) : s = t := hs.trans ht.symm

/-! ## Quick items -/

namespace QuickItem

/-- The value lists the item. The label stands in front of the first bar, and the tooltip
behind the last one. With one bar there is no tooltip, and none either if nothing but blanks
stands behind the last bar. What stands between is the phrase, with any bars that it has. -/
inductive ListedBy : QuickItem → Text → Prop where
  | plain {label phrase : Text} (label_bar : '|' ∉ label) (phrase_bar : '|' ∉ phrase)
      (label_ne : label.trim ≠ []) (phrase_ne : phrase.trim ≠ []) :
      ListedBy { label := label.trim, phrase := phrase.trim, tooltip := none }
        (label ++ '|' :: phrase)
  | explained {label phrase tooltip : Text} (label_bar : '|' ∉ label) (tooltip_bar : '|' ∉ tooltip)
      (label_ne : label.trim ≠ []) (phrase_ne : phrase.trim ≠ []) :
      ListedBy
        { label := label.trim, phrase := phrase.trim,
          tooltip := if tooltip.trim = [] then none else some tooltip.trim }
        (label ++ '|' :: (phrase ++ '|' :: tooltip))

theorem nonEmpty?_eq (t : Text) : nonEmpty? t = if t = [] then none else some t := by
  cases t <;> rfl

/-- **Reading finds the item that is listed.** -/
theorem read?_eq_some_iff_listedBy {value : Text} {i : QuickItem} :
    read? value = some i ↔ i.ListedBy value := by
  rw [read?_eq_some_iff]
  constructor
  · obtain ⟨l, p, tip⟩ := i
    rintro ⟨label, rest, cut, ⟨rfl, label_ne⟩, ⟨phrase_eq, phrase_ne⟩, tooltip_eq⟩
    obtain ⟨rfl, label_bar⟩ := Text.splitFirst?_eq_some_iff.1 cut
    cases last : rest.splitLast? '|' with
    | none =>
      rw [last] at phrase_eq tooltip_eq
      obtain rfl : rest.trim = p := phrase_eq
      obtain rfl : none = tip := tooltip_eq
      exact .plain label_bar (Text.splitLast?_eq_none_iff.1 last) label_ne phrase_ne
    | some parts =>
      obtain ⟨phrase, tooltip⟩ := parts
      rw [last] at phrase_eq tooltip_eq
      obtain ⟨rfl, tooltip_bar⟩ := Text.splitLast?_eq_some_iff.1 last
      obtain rfl : phrase.trim = p := phrase_eq
      obtain rfl : nonEmpty? tooltip.trim = tip := tooltip_eq
      rw [nonEmpty?_eq]
      exact .explained label_bar tooltip_bar label_ne phrase_ne
  · intro listed
    cases listed with
    | @plain label phrase label_bar phrase_bar label_ne phrase_ne =>
      refine ⟨label, phrase, Text.splitFirst?_eq_some_iff.2 ⟨rfl, label_bar⟩, ⟨rfl, label_ne⟩, ?_⟩
      rw [Text.splitLast?_eq_none_iff.2 phrase_bar]
      exact ⟨⟨rfl, phrase_ne⟩, rfl⟩
    | @explained label phrase tooltip label_bar tooltip_bar label_ne phrase_ne =>
      refine ⟨label, _, Text.splitFirst?_eq_some_iff.2 ⟨rfl, label_bar⟩, ⟨rfl, label_ne⟩, ?_⟩
      rw [Text.splitLast?_eq_some_iff.2 ⟨rfl, tooltip_bar⟩]
      exact ⟨⟨rfl, phrase_ne⟩, nonEmpty?_eq _⟩

theorem ListedBy.unique {value : Text} {i j : QuickItem} (hi : i.ListedBy value)
    (hj : j.ListedBy value) : i = j :=
  Option.some.inj
    ((read?_eq_some_iff_listedBy.2 hi).symm.trans (read?_eq_some_iff_listedBy.2 hj))

end QuickItem

end GridFilter
