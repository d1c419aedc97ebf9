/-
A settings file as the list of its settings.

Every line is read on its own, so a file is accepted exactly when no line has a
fault, and what it says is what its settings make of the defaults, one carried out
after the other (`readLines_eq_ok_iff`). Everything that holds of the settings one
by one therefore holds of what was read. Here that is used for the form of the
texts: whatever comes from a file is trimmed and lies on one line, and the parts
of a quick item hold no bars but where the item is cut (`tidy_of_read`).
-/
import GridFilter.Config
import GridFilter.Proofs.Text.Values

set_option autoImplicit false

namespace GridFilter

/-! ## Lines without faults -/

namespace Config

/-- The setting on a line, if there is one. -/
def Line.setting? : Line → Option Setting
  | setting s => some s
  | _ => none

/-- Whether a line cannot be read. -/
def Line.isFault : Line → Bool
  | fault .. => true
  | _ => false

/-- The settings on some lines, in order. -/
def settingsOf (ls : List Text) : List Setting := ls.filterMap fun l => (Line.read l).setting?

/-- **What a file says is what its lines say.** -/
theorem readLines_eq_ok_iff {c d : Config} {n : Nat} {ls : List Text} :
    (c.readLines n ls).1 = .ok d ↔
      (∀ l ∈ ls, (Line.read l).isFault = false) ∧ (settingsOf ls).foldl apply c = d := by
  induction ls generalizing c n with
  | nil => simp [readLines, settingsOf]
  | cons l ls ih =>
    rw [readLines, settingsOf, List.filterMap_cons]
    simp only [List.forall_mem_cons]
    cases Line.read l with
    | nothing => simp [ih, settingsOf, Line.isFault, Line.setting?]
    | fault columns f => simp [Line.isFault]
    | setting s => simp [ih, settingsOf, Line.isFault, Line.setting?]

theorem read_eq_ok_iff {t : Text} {c : Config} :
    read t = .ok c ↔
      (∀ l ∈ t.lines, (Line.read l).isFault = false) ∧
        (settingsOf t.lines).foldl apply {} = c :=
  readLines_eq_ok_iff

end Config

/-! ## The form of what is read -/

/-- Both parts of the item that have to be there are values, and so is the tooltip
if there is one. The label and the tooltip hold no bar. -/
structure QuickItem.Tidy (i : QuickItem) : Prop where
  label : i.label.IsValue
  label_no_bar : '|' ∉ i.label
  phrase : i.phrase.IsValue
  tooltip : ∀ t, i.tooltip = some t → t.IsValue ∧ '|' ∉ t

namespace QuickItem

theorem nonEmpty?_eq_some_iff {s t : Text} : nonEmpty? s = some t ↔ s = t ∧ t ≠ [] := by
  unfold nonEmpty?
  split
  · rename_i h
    rw [List.isEmpty_iff] at h
    subst h
    simp [eq_comm]
  · rename_i h
    rw [List.isEmpty_iff] at h
    rw [Option.some.injEq]
    exact ⟨fun e => ⟨e, e ▸ h⟩, And.left⟩

/-- An item is read by cutting off its label at the first bar and its tooltip at the
last, and trimming the three. -/
theorem read?_eq_some_iff {value : Text} {i : QuickItem} :
    read? value = some i ↔
      ∃ label rest, value.splitFirst? '|' = some (label, rest) ∧
        (label.trim = i.label ∧ i.label ≠ []) ∧
        ((((rest.splitLast? '|').getD (rest, [])).1.trim = i.phrase) ∧ i.phrase ≠ []) ∧
        nonEmpty? ((rest.splitLast? '|').getD (rest, [])).2.trim = i.tooltip := by
  obtain ⟨l, p, tip⟩ := i
  simp only [read?, Option.bind_eq_bind, Option.bind_eq_some_iff, Prod.exists,
    nonEmpty?_eq_some_iff, Option.pure_def, Option.some.injEq, QuickItem.mk.injEq]
  constructor
  · rintro ⟨label, rest, cut, l', hl, p', hp, rfl, rfl, rfl⟩
    exact ⟨label, rest, cut, hl, hp, rfl⟩
  · rintro ⟨label, rest, cut, hl, hp, ht⟩
    exact ⟨label, rest, cut, l, hl, p, hp, rfl, rfl, ht⟩

/-- An item that was read from one line has the form of one. -/
theorem tidy_of_read? {value : Text} {i : QuickItem} (h : read? value = some i)
    (one_line : '\n' ∉ value) : i.Tidy := by
  obtain ⟨label, rest, cut, ⟨hl, hl'⟩, ⟨hp, hp'⟩, ht⟩ := read?_eq_some_iff.1 h
  obtain ⟨rfl, bar⟩ := Text.splitFirst?_eq_some_iff.1 cut
  simp only [List.mem_append, List.mem_cons, not_or] at one_line
  obtain ⟨label_line, -, rest_line⟩ := one_line
  have label_value : i.label.IsValue := hl ▸ .of_trim label_line (hl ▸ hl')
  have label_bar : '|' ∉ i.label := hl ▸ fun hc => bar (Text.mem_of_mem_trim hc)
  cases last : rest.splitLast? '|' with
  | none =>
    rw [last] at hp ht
    have no_tip : i.tooltip = none := ht.symm
    exact ⟨label_value, label_bar, hp ▸ .of_trim rest_line (hp ▸ hp'), by simp [no_tip]⟩
  | some parts =>
    obtain ⟨phrase, tooltip⟩ := parts
    rw [last] at hp ht
    obtain ⟨rfl, tip_bar⟩ := Text.splitLast?_eq_some_iff.1 last
    simp only [List.mem_append, List.mem_cons, not_or] at rest_line
    obtain ⟨phrase_line, -, tip_line⟩ := rest_line
    refine ⟨label_value, label_bar, hp ▸ .of_trim phrase_line (hp ▸ hp'), fun t e => ?_⟩
    obtain ⟨rfl, there⟩ := nonEmpty?_eq_some_iff.1 (ht.trans e)
    exact ⟨.of_trim tip_line there, fun hc => tip_bar (Text.mem_of_mem_trim hc)⟩

end QuickItem

namespace Config

/-- A setting whose texts have the form of texts on a line. -/
def Setting.Tidy : Setting → Prop
  | ignoreTag tag => ∀ t, tag = some t → t.IsValue
  | quick i => i.Tidy
  | _ => True

/-- Settings whose texts have the form of texts on a line. -/
structure Tidy (c : Config) : Prop where
  ignoreTag : ∀ t, c.ignoreTag = some t → t.IsValue
  quickList : ∀ i ∈ c.quickList, i.Tidy

namespace Line

theorem ofExcept_map_eq_setting_iff {α : Type} {e : Except LineFault α} {f : α → Setting}
    {s : Setting} : ofExcept (e.map f) = setting s ↔ ∃ a, e = .ok a ∧ f a = s := by
  cases e <;> simp [ofExcept, Except.map]

theorem readValue_ignoreColumns_eq_setting_iff {value : Text} {s : Setting} :
    readValue .ignoreColumns value = setting s ↔
      ∃ ns, readColumns (((value.splitAll ',').map Text.trim).filter fun t => !t.isEmpty) =
        (ns, none) ∧ .ignoreColumns ns = s := by
  rw [readValue]
  split
  · rename_i ns accepted
    simp [accepted]
  · rename_i ns f refused
    simp [refused]

theorem readValue_quick_eq_setting_iff {value : Text} {s : Setting} :
    readValue .quick value = setting s ↔ ∃ i, QuickItem.read? value = some i ∧ .quick i = s := by
  rw [readValue]
  cases QuickItem.read? value <;> simp [ofExcept]

theorem tidy_of_readValue {key : Key} {value : Text} {s : Setting}
    (h : readValue key value = setting s) (trimmed : value.trim = value)
    (one_line : '\n' ∉ value) : s.Tidy := by
  cases key with
  | matchMode | minChars | minRows =>
    obtain ⟨_, _, rfl⟩ := ofExcept_map_eq_setting_iff.1 h
    trivial
  | ignoreColumns =>
    obtain ⟨_, _, rfl⟩ := readValue_ignoreColumns_eq_setting_iff.1 h
    trivial
  | ignoreTag =>
    cases h
    intro t e
    obtain ⟨rfl, there⟩ := QuickItem.nonEmpty?_eq_some_iff.1 e
    exact ⟨there, trimmed, one_line⟩
  | quick =>
    obtain ⟨i, hi, rfl⟩ := readValue_quick_eq_setting_iff.1 h
    exact QuickItem.tidy_of_read? hi one_line

/-- What is read from a line has the form of texts on a line. -/
theorem tidy_of_read {line : Text} {s : Setting} (h : read line = setting s)
    (one_line : '\n' ∉ line) : s.Tidy := by
  rw [read] at h
  split at h
  · cases h
  · split at h
    · cases h
    · rename_i key value cut
      obtain ⟨whole, _⟩ := Text.splitFirst?_eq_some_iff.1 cut
      have value_line : '\n' ∉ value := by
        intro hc
        refine one_line (Text.mem_of_mem_trim ?_)
        rw [whole]
        exact List.mem_append_right _ (List.mem_cons_of_mem _ hc)
      dsimp only at h
      split at h
      · cases h
      · exact tidy_of_readValue h (Text.trim_trim value)
          fun hc => value_line (Text.mem_of_mem_trim hc)

end Line

theorem mem_settingsOf_iff {ls : List Text} {s : Setting} :
    s ∈ settingsOf ls ↔ ∃ l ∈ ls, Line.read l = .setting s := by
  simp only [settingsOf, List.mem_filterMap]
  refine exists_congr fun l => and_congr_right fun _ => ?_
  cases Line.read l <;> simp [Line.setting?]

/-- Carrying out a setting keeps the form. -/
theorem Tidy.apply {c : Config} (hc : c.Tidy) {s : Setting} (hs : s.Tidy) : (c.apply s).Tidy := by
  cases s with
  | matchMode | minChars | minRows | ignoreColumns => exact ⟨hc.ignoreTag, hc.quickList⟩
  | ignoreTag tag => exact ⟨hs, hc.quickList⟩
  | quick i =>
    refine ⟨hc.ignoreTag, fun j hj => ?_⟩
    rcases List.mem_append.1 hj with hj | hj
    · exact hc.quickList j hj
    · rw [List.mem_singleton.1 hj]
      exact hs

/-- **What is read from a file has the form of texts on a line.** -/
theorem tidy_of_read {t : Text} {c : Config} (h : read t = .ok c) : c.Tidy := by
  obtain ⟨_, rfl⟩ := read_eq_ok_iff.1 h
  have settings_tidy : ∀ s ∈ settingsOf t.lines, s.Tidy := by
    intro s hs
    obtain ⟨l, hl, read_l⟩ := mem_settingsOf_iff.1 hs
    exact Line.tidy_of_read read_l (Text.lineFeed_not_mem_of_mem_lines hl)
  refine List.foldlRecOn _ apply ?_ fun c hc s hs => hc.apply (settings_tidy s hs)
  exact ⟨by simp, by simp⟩

end Config

end GridFilter
