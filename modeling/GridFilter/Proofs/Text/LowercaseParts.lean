/-
Lower-casing a text part by part.

A text is lower-cased part by part if each part is told what stands around it
(`lowercase_append_append`). Only capital sigmas ask: the first character on either side
that case does not pass over decides their form. Some of them have the answer in their own
part. If every capital sigma of a part does, the part is lower-cased alike wherever it
stands, and its lower-case form is found in that of every text that holds it.

The converse is true as well (`forall_contains_lowercase_iff`). A sigma that is not settled
takes its other form when one letter is put in front of the part or behind it. No other
sigma can change the opposite way there, so one of the two forms is now rarer than in the
lower-case form of the part alone, which therefore does not occur.
-/
import GridFilter.Text.Lowercase
import Mathlib.Data.List.Count
import Mathlib.Data.List.Forall2

set_option autoImplicit false

namespace GridFilter.Text

/-! ## A part between two others -/

/-- The lower-case form of a text that stands between two others, the first of them
reversed. -/
def lowerWithin (before after : Text) : Text → Text
  | [] => []
  | c :: t =>
    (if c == 'Σ' then [lowerSigma before (t ++ after)] else lowerChar c) ++
      lowerWithin (c :: before) after t

variable {before after : Text}

theorem lowerWithin_append (before after s t : Text) :
    lowerWithin before after (s ++ t) =
      lowerWithin before (t ++ after) s ++ lowerWithin (s.reverse ++ before) after t := by
  induction s generalizing before with
  | nil => rfl
  | cons c s ih =>
    rw [List.cons_append, lowerWithin, lowerWithin, ih, List.append_assoc, List.append_assoc,
      List.reverse_cons, List.append_assoc, List.singleton_append]

theorem lowerWithin_sigma (before after t : Text) :
    lowerWithin before after ('Σ' :: t) =
      lowerSigma before (t ++ after) :: lowerWithin ('Σ' :: before) after t := rfl

/-- Going through a text by its places is going through it with what stands in front. -/
theorem flatMap_zipIdx_eq_lowerWithin (front t : Text) :
    ((t.zipIdx front.length).flatMap fun p =>
      if p.1 == 'Σ' then
        [lowerSigma ((front ++ t).take p.2).reverse ((front ++ t).drop (p.2 + 1))]
      else lowerChar p.1) = lowerWithin front.reverse [] t := by
  induction t generalizing front with
  | nil => rfl
  | cons c t ih =>
    have front_part : (front ++ c :: t).take front.length = front := List.take_left
    have back_part : (front ++ c :: t).drop (front.length + 1) = t := by
      rw [← List.drop_drop, List.drop_left, List.drop_one, List.tail_cons]
    have rest := ih (front ++ [c])
    rw [List.length_append, List.length_singleton, List.append_assoc, List.singleton_append,
      List.reverse_append, List.reverse_singleton, List.singleton_append] at rest
    rw [List.zipIdx_cons, List.flatMap_cons, rest, lowerWithin, front_part, back_part,
      List.append_nil]

theorem lowercase_eq_lowerWithin (t : Text) : t.lowercase = lowerWithin [] [] t :=
  flatMap_zipIdx_eq_lowerWithin [] t

/-- **A text is lower-cased part by part**, each part in view of the others. -/
theorem lowercase_append_append (s t u : Text) :
    (s ++ t ++ u).lowercase =
      lowerWithin [] (t ++ u) s ++ lowerWithin s.reverse u t ++
        lowerWithin (s ++ t).reverse [] u := by
  rw [lowercase_eq_lowerWithin, lowerWithin_append, lowerWithin_append, List.append_nil,
    List.append_nil, List.append_nil]

/-- A part that is lower-cased as if it stood alone is found. -/
theorem contains_lowercase_of_lowerWithin {s t u : Text}
    (alone : lowerWithin s.reverse u t = t.lowercase) :
    (s ++ t ++ u).lowercase.contains t.lowercase = true := by
  rw [lowercase_append_append, alone]
  exact contains_iff.2 ⟨_, _, rfl⟩

/-- What relates the forms of all capital sigmas in two surroundings of a part relates the
part in these surroundings, character by character. -/
theorem forall₂_lowerWithin {R : Char → Char → Prop} (refl : ∀ c, R c c)
    {before' after' t : Text}
    (sigmas : ∀ front back, t = front ++ 'Σ' :: back →
      R (lowerSigma (front.reverse ++ before) (back ++ after))
        (lowerSigma (front.reverse ++ before') (back ++ after'))) :
    List.Forall₂ R (lowerWithin before after t) (lowerWithin before' after' t) := by
  induction t generalizing before before' with
  | nil => exact .nil
  | cons c t ih =>
    have rest : List.Forall₂ R (lowerWithin (c :: before) after t)
        (lowerWithin (c :: before') after' t) := by
      refine ih fun front back split => ?_
      have behind := sigmas (c :: front) back (by rw [split, List.cons_append])
      rwa [List.reverse_cons, List.append_assoc, List.append_assoc] at behind
    rw [lowerWithin, lowerWithin]
    by_cases sigma : c = 'Σ'
    · subst sigma
      exact .cons (sigmas [] t rfl) rest
    · rw [if_neg (by simpa using sigma), if_neg (by simpa using sigma)]
      exact List.rel_append (List.forall₂_same.2 fun d _ => refl d) rest

/-- If all capital sigmas of a part take the same forms, the part does. -/
theorem lowerWithin_congr {before' after' t : Text}
    (same : ∀ front back, t = front ++ 'Σ' :: back →
      lowerSigma (front.reverse ++ before) (back ++ after) =
        lowerSigma (front.reverse ++ before') (back ++ after')) :
    lowerWithin before after t = lowerWithin before' after' t := by
  rw [← List.forall₂_eq_eq_eq]
  exact forall₂_lowerWithin (fun _ => rfl) same

/-! ## Where the form of a sigma is settled -/

/-- Whether a text holds a character that case does not pass over. -/
def tells (t : Text) : Bool := t.any fun c => !isCaseIgnorable c

/-- Whether the form of a capital sigma between two texts, the first of them reversed, is
the same whatever stands around these: a cased letter follows; or what comes first in front
has no case; or there is a character that tells on both sides. -/
def settlesSigma (beforeReversed after : Text) : Bool :=
  meetsCased after || (tells beforeReversed && (tells after || !meetsCased beforeReversed))

/-- Every capital sigma of the text is settled by the text itself. -/
def SigmasSettled (t : Text) : Prop :=
  ∀ front back, t = front ++ 'Σ' :: back → settlesSigma front.reverse back = true

theorem sigmasSettled_iff_getElem? {t : Text} :
    t.SigmasSettled ↔ ∀ i < t.length, t[i]? = some 'Σ' →
      settlesSigma (t.take i).reverse (t.drop (i + 1)) = true := by
  constructor
  · intro settled i hi sigma
    refine settled _ _ ?_
    obtain ⟨_, sigma⟩ := List.getElem?_eq_some_iff.1 sigma
    rw [← sigma, List.getElem_cons_drop, List.take_append_drop]
  · rintro settled front back rfl
    have here := settled front.length (by simp) (by simp)
    rwa [List.take_left, ← List.drop_drop, List.drop_left, List.drop_one, List.tail_cons] at here

instance (t : Text) : Decidable t.SigmasSettled := decidable_of_iff' _ sigmasSettled_iff_getElem?

/-- Without a capital sigma there is nothing to settle. -/
theorem sigmasSettled_of_not_mem {t : Text} (h : 'Σ' ∉ t) : t.SigmasSettled := by
  rintro front back rfl
  exact absurd (List.mem_append_right front List.mem_cons_self) h

variable {s t : Text}

/-- The nearest character that tells decides what is met. -/
theorem meetsCased_append (s t : Text) :
    meetsCased (s ++ t) = if tells s then meetsCased s else meetsCased t := by
  rw [meetsCased, meetsCased, meetsCased, List.find?_append, tells]
  cases first : s.find? fun c => !isCaseIgnorable c with
  | none =>
    have silent : (s.any fun c => !isCaseIgnorable c) = false := by simpa using first
    rw [silent, Option.none_or, if_neg Bool.false_ne_true]
  | some c =>
    have telling : (s.any fun c => !isCaseIgnorable c) = true :=
      List.any_eq_true.2 ⟨c, List.mem_of_find?_eq_some first,
        List.find?_some (p := fun c => !isCaseIgnorable c) first⟩
    rw [telling, Option.some_or, if_pos rfl]

/-- A letter that is met is a character that tells. -/
theorem meetsCased_of_tells_eq_false (h : tells t = false) : meetsCased t = false := by
  have none_met : (t.find? fun c => !isCaseIgnorable c) = none := by simpa [tells] using h
  rw [meetsCased, none_met, Option.any_none]

/-- **A sigma that is settled keeps its form.** -/
theorem lowerSigma_append_of_settlesSigma (settled : settlesSigma s t = true)
    (before after : Text) : lowerSigma (s ++ before) (t ++ after) = lowerSigma s t := by
  rw [lowerSigma, lowerSigma, meetsCased_append, meetsCased_append]
  cases front : tells s with
  | true =>
    cases back : tells t with
    | true => rfl
    | false =>
      have caseless : meetsCased s = false := by
        simpa [settlesSigma, front, back, meetsCased_of_tells_eq_false back] using settled
      simp [caseless]
  | false =>
    have cased : meetsCased t = true := by simpa [settlesSigma, front] using settled
    have back : tells t = true := by
      by_contra silent
      rw [meetsCased_of_tells_eq_false (Bool.eq_false_iff.2 silent)] at cased
      exact absurd cased Bool.false_ne_true
    simp [back, cased]

/-! ## A sigma that is not settled -/

theorem lowerSigma_eq_final_iff :
    lowerSigma s t = 'ς' ↔ meetsCased s = true ∧ meetsCased t = false := by
  rw [lowerSigma]
  cases meetsCased s <;> cases meetsCased t <;> decide

theorem lowerSigma_eq_medial_iff :
    lowerSigma s t = 'σ' ↔ (meetsCased s = true → meetsCased t = true) := by
  rw [lowerSigma]
  cases meetsCased s <;> cases meetsCased t <;> decide

/-- What is put in front cannot take the end of a word away. -/
theorem lowerSigma_of_append_front {before : Text} (h : lowerSigma (s ++ before) t = 'σ') :
    lowerSigma s t = 'σ' := by
  rw [lowerSigma_eq_medial_iff, meetsCased_append] at h
  rw [lowerSigma_eq_medial_iff]
  intro cased
  refine h ?_
  cases telling : tells s with
  | true => rwa [if_pos rfl]
  | false =>
    rw [meetsCased_of_tells_eq_false telling] at cased
    exact absurd cased Bool.false_ne_true

/-- What is put behind cannot make the end of a word. -/
theorem lowerSigma_of_append_back {after : Text} (h : lowerSigma s (t ++ after) = 'ς') :
    lowerSigma s t = 'ς' := by
  rw [lowerSigma_eq_final_iff, meetsCased_append] at h
  obtain ⟨cased, none_behind⟩ := h
  refine lowerSigma_eq_final_iff.2 ⟨cased, ?_⟩
  cases telling : tells t with
  | true => rwa [telling, if_pos rfl] at none_behind
  | false => exact meetsCased_of_tells_eq_false telling

/-- A letter in front or a letter behind changes a sigma that is not settled. -/
theorem lowerSigma_letter_of_not_settlesSigma (open_sigma : settlesSigma s t = false) :
    (lowerSigma (s ++ ['A']) t = 'ς' ∧ lowerSigma s t = 'σ') ∨
      (lowerSigma s (t ++ ['A']) = 'σ' ∧ lowerSigma s t = 'ς') := by
  have letter : meetsCased ['A'] = true := by decide
  rw [settlesSigma, Bool.or_eq_false_iff] at open_sigma
  obtain ⟨none_behind, unsettled⟩ := open_sigma
  rw [lowerSigma_eq_final_iff, lowerSigma_eq_final_iff, lowerSigma_eq_medial_iff,
    lowerSigma_eq_medial_iff, meetsCased_append, meetsCased_append, letter, none_behind]
  cases front : tells s with
  | false => simp [meetsCased_of_tells_eq_false front]
  | true =>
    obtain ⟨back, cased⟩ : tells t = false ∧ meetsCased s = true := by
      simpa [front] using unsettled
    simp [back, cased]

/-- A character that is kept wherever it stands is not rarer afterwards. -/
private theorem count_le_of_forall₂ {d : Char} {xs ys : Text}
    (h : List.Forall₂ (fun x y => x = d → y = d) xs ys) : xs.count d ≤ ys.count d := by
  induction h with
  | nil => exact Nat.le_refl _
  | @cons x y xs ys kept _ ih =>
    by_cases here : x = d
    · rw [here, kept here, List.count_cons_self, List.count_cons_self]
      exact Nat.succ_le_succ ih
    · rw [List.count_cons_of_ne here]
      exact Nat.le_trans ih List.count_le_count_cons

/-- **A form that no capital sigma gains and one loses is rarer than alone.** -/
theorem count_lowerWithin_lt {d : Char} {front back : Text}
    (kept : ∀ u v : Text, lowerSigma (u ++ before) (v ++ after) = d → lowerSigma u v = d)
    (lost : lowerSigma (front.reverse ++ before) (back ++ after) ≠ d)
    (had : lowerSigma front.reverse back = d) :
    (lowerWithin before after (front ++ 'Σ' :: back)).count d <
      (lowercase (front ++ 'Σ' :: back)).count d := by
  have in_front : (lowerWithin before ('Σ' :: back ++ after) front).count d ≤
      (lowerWithin [] ('Σ' :: back) front).count d := by
    refine count_le_of_forall₂ (forall₂_lowerWithin (fun _ => id) fun u v _ sigma => ?_)
    rw [← List.append_assoc] at sigma
    rw [List.append_nil]
    exact kept _ _ sigma
  have behind : (lowerWithin ('Σ' :: (front.reverse ++ before)) after back).count d ≤
      (lowerWithin ('Σ' :: front.reverse) [] back).count d := by
    refine count_le_of_forall₂ (forall₂_lowerWithin (fun _ => id) fun u v _ sigma => ?_)
    rw [← List.cons_append, ← List.append_assoc] at sigma
    rw [List.append_nil]
    exact kept _ _ sigma
  rw [lowercase_eq_lowerWithin, lowerWithin_append, lowerWithin_append, List.count_append,
    List.count_append, lowerWithin_sigma, lowerWithin_sigma, List.append_nil, List.append_nil,
    List.append_nil, had, List.count_cons_self, List.count_cons_of_ne lost]
  omega

/-! ## Parts that are found in whatever holds them -/

variable {p : Text}

/-- A letter in front is lower-cased for itself. -/
theorem lowercase_letter_append (t : Text) :
    lowercase (['A'] ++ t ++ []) = 'a' :: lowerWithin ['A'] [] t := by
  rw [lowercase_append_append]
  exact List.append_nil _

/-- So is a letter behind. -/
theorem lowercase_append_letter (t : Text) :
    lowercase ([] ++ t ++ ['A']) = lowerWithin [] ['A'] t ++ ['a'] := by
  rw [lowercase_append_append]
  rfl

/-- A text that occurs in another holds no character more often. -/
theorem count_le_of_contains {d : Char} (h : t.contains p = true) : p.count d ≤ t.count d := by
  obtain ⟨before, after, rfl⟩ := contains_iff.1 h
  rw [List.count_append, List.count_append]
  omega

/-- A capital sigma that is not settled keeps its text from being found in a longer one. -/
theorem settlesSigma_of_found {front back : Text} (whole : p = front ++ 'Σ' :: back)
    (found : ∀ s t : Text, (s ++ p ++ t).lowercase.contains p.lowercase = true) :
    settlesSigma front.reverse back = true := by
  subst whole
  by_contra unsettled
  rcases lowerSigma_letter_of_not_settlesSigma (Bool.eq_false_iff.2 unsettled) with
    ⟨final, medial⟩ | ⟨medial, final⟩
  · -- With a letter in front there is a medial sigma too few.
    have fewer : (lowerWithin ['A'] [] (front ++ 'Σ' :: back)).count 'σ' <
        (lowercase (front ++ 'Σ' :: back)).count 'σ' := by
      refine count_lowerWithin_lt (fun u v sigma => ?_) ?_ medial
      · rw [List.append_nil] at sigma
        exact lowerSigma_of_append_front sigma
      · rw [List.append_nil, final]
        decide
    have enough := count_le_of_contains (d := 'σ') (found ['A'] [])
    rw [lowercase_letter_append, List.count_cons_of_ne (by decide)] at enough
    exact absurd fewer (Nat.not_lt.2 enough)
  · -- With a letter behind there is a final sigma too few.
    have fewer : (lowerWithin [] ['A'] (front ++ 'Σ' :: back)).count 'ς' <
        (lowercase (front ++ 'Σ' :: back)).count 'ς' := by
      refine count_lowerWithin_lt (fun u v sigma => ?_) ?_ final
      · rw [List.append_nil] at sigma
        exact lowerSigma_of_append_back sigma
      · rw [List.append_nil, medial]
        decide
    have enough := count_le_of_contains (d := 'ς') (found [] ['A'])
    have letter : List.count 'ς' ['a'] = 0 := by decide
    rw [lowercase_append_letter, List.count_append, letter, Nat.add_zero] at enough
    exact absurd fewer (Nat.not_lt.2 enough)

/-- **Which texts are found, in lower case, in whatever holds them**: those that settle all
of their capital sigmas themselves. -/
theorem forall_contains_lowercase_iff :
    (∀ s t : Text, (s ++ p ++ t).lowercase.contains p.lowercase = true) ↔ p.SigmasSettled := by
  constructor
  · intro found front back whole
    exact settlesSigma_of_found whole found
  · intro settled s t
    refine contains_lowercase_of_lowerWithin ?_
    rw [lowercase_eq_lowerWithin]
    refine lowerWithin_congr fun front back split => ?_
    rw [List.append_nil, List.append_nil]
    exact lowerSigma_append_of_settlesSigma (settled front back split) _ _

end GridFilter.Text
