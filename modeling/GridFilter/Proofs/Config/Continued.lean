/-
A settings file that goes on.

The reader keeps nothing but the configuration it has made so far, so what stands behind a
file is read on from there (`readLines_append`). That is said of lines, and a file is a text:
its last line may not be ended, or may end in a carriage return. For the reader neither
matters. A line is what stands between line feeds (`readLines_endLines`), and a line feed
behind a file only ever ends a line (`read_append_lineFeed`).

A setting is written on such a line as it is in a file that is written as a whole, except
that any blanks may stand behind the commas of a list.
-/
import GridFilter.Proofs.Config.RoundTrip

set_option autoImplicit false

namespace GridFilter.Config

/-! ## Reading on -/

/-- The reader goes on with what it has made so far, if it could read that. -/
theorem readLines_append (c : Config) (n : Nat) (ls ms : List Text) :
    (c.readLines n (ls ++ ms)).1 =
      (c.readLines n ls).1.bind fun d => (d.readLines (n + ls.length) ms).1 := by
  induction ls generalizing c n with
  | nil => rfl
  | cons l ls ih =>
    have next : n + (l :: ls).length = n + 1 + ls.length := by
      rw [List.length_cons]
      omega
    rw [List.cons_append, readLines, readLines, next]
    cases Line.read l with
    | fault columns f => rfl
    | nothing => exact ih c (n + 1)
    | setting s => exact ih (c.apply s) (n + 1)

/-- A line is read without the blanks around it. -/
theorem Line.read_eq_of_trim_eq {l m : Text} (h : l.trim = m.trim) : read l = read m := by
  simp only [read, h]

theorem trim_dropReturn (l : Text) : (Text.dropReturn l).trim = l.trim := by
  unfold Text.dropReturn
  split
  · rename_i rest reversed
    have ended : l = rest.reverse ++ ['\r'] := by
      rw [← List.reverse_reverse l, reversed, List.reverse_cons]
    rw [ended, Text.trim_append_blank (by decide)]
  · rfl

/-- **For the reader a line is what stands between line feeds.** A carriage return in front
of one is a blank, and nothing behind the last one is a blank line. -/
theorem readLines_endLines (c : Config) (n : Nat) (parts : List Text) :
    c.readLines n (Text.endLines parts) = c.readLines n parts := by
  induction parts generalizing c n with
  | nil => rfl
  | cons part rest ih =>
    cases rest with
    | nil =>
      rw [Text.endLines]
      split
      · rename_i empty
        rw [List.isEmpty_iff.1 empty]
        rfl
      · rfl
    | cons next rest =>
      have same : Line.read (Text.dropReturn part) = Line.read part :=
        Line.read_eq_of_trim_eq (trim_dropReturn part)
      rw [Text.endLines, readLines, readLines, same]
      · simp only [ih]
      · simp

/-- What stands behind a line feed is read on from what the text before it made, whether
or not that text ends in a line feed of its own. -/
theorem read_append_lineFeed {t : Text} {c : Config} (accepted : read t = .ok c) (u : Text) :
    read (t ++ '\n' :: u) =
      (c.readLines (1 + (t.splitAll '\n').length) (u.splitAll '\n')).1 := by
  have before : (readLines {} 1 (t.splitAll '\n')).1 = .ok c := by
    rw [← readLines_endLines]
    exact accepted
  rw [read, readWithLog, Text.lines, readLines_endLines, Text.splitAll_append_cons,
    readLines_append, before]
  rfl

/-- Empty lines change nothing. -/
theorem readLines_of_empty (c : Config) (n : Nat) {ls : List Text} (h : ∀ l ∈ ls, l = []) :
    (c.readLines n ls).1 = .ok c := by
  induction ls generalizing n with
  | nil => rfl
  | cons l ls ih =>
    obtain ⟨rfl, rest⟩ := List.forall_mem_cons.1 h
    exact ih (n + 1) rest

/-- Lines that give settings carry them out, one after the other. -/
theorem readLines_map (c : Config) (n : Nat) {line : Setting → Text} {ss : List Setting}
    (h : ∀ s ∈ ss, Line.read (line s) = .setting s) :
    (c.readLines n (ss.map line)).1 = .ok (ss.foldl apply c) := by
  induction ss generalizing c n with
  | nil => rfl
  | cons s ss ih =>
    obtain ⟨first, rest⟩ := List.forall_mem_cons.1 h
    rw [List.map_cons, readLines, first]
    exact ih (c.apply s) (n + 1) rest

/-! ## Lines with other gaps -/

/-- The value of a setting with other blanks behind the commas. -/
def Setting.valueWith (gap : Text) : Setting → Text
  | ignoreColumns ns => Text.join (',' :: gap) (ns.map Text.ofWord)
  | s => s.value

/-- The line of a setting with other blanks behind the commas. -/
def Setting.lineWith (gap : Text) (s : Setting) : Text :=
  s.key.name.toList ++ " = ".toList ++ s.valueWith gap

section Gap

variable {gap : Text} {s : Setting} (blank : ∀ b ∈ gap, Text.isBlank b = true ∧ b ≠ '\n')
include blank

/-- The value of a setting is nothing at all or one that can be read back. -/
theorem Setting.Tidy.valueWith_cases (h : s.Tidy) :
    s.valueWith gap = [] ∨ (s.valueWith gap).IsValue := by
  cases s with
  | ignoreColumns ns =>
    have one_line : '\n' ∉ ',' :: gap := by
      rw [List.mem_cons, not_or]
      exact ⟨by decide, fun hc => (blank _ hc).2 rfl⟩
    exact Text.join_ofWord_cases one_line ns
  | matchMode | minChars | minRows | ignoreTag | quick => exact h.value_cases

/-- A setting is written on one line. -/
theorem Setting.Tidy.lineFeed_not_mem_lineWith (h : s.Tidy) : '\n' ∉ s.lineWith gap := by
  have key_line := s.key.one_line
  rw [Setting.lineWith]
  rcases h.valueWith_cases blank with empty | value
  · rwa [empty, List.append_nil]
  · simpa [value.one_line] using key_line

/-- A setting is read from its line. -/
theorem Line.read_lineWith (h : s.Tidy)
    (items : ∀ i, s = .quick i → QuickItem.read? i.write = some i) :
    read (s.lineWith gap) = setting s := by
  cases s with
  | ignoreColumns ns =>
    have trimmed : (Text.join (',' :: gap) (ns.map Text.ofWord)).trim =
        Text.join (',' :: gap) (ns.map Text.ofWord) := by
      rcases h.valueWith_cases blank with empty | value
      · rw [Setting.valueWith] at empty
        rw [empty]
        rfl
      · exact value.trim_eq
    rw [Setting.lineWith, read_assignment, Setting.valueWith, trimmed, Setting.key, readValue,
      readColumns_join fun b hb => (blank b hb).1]
  | matchMode | minChars | minRows | ignoreTag | quick => exact read_line h items

end Gap

/-- **A file that goes on with settings.** Behind a file that is accepted, settings on lines
of their own are carried out on what the file makes. -/
theorem read_append_settings {t : Text} {c : Config} (accepted : read t = .ok c)
    {line : Setting → Text} {ss : List Setting}
    (lines : ∀ s ∈ ss, '\n' ∉ line s ∧ Line.read (line s) = .setting s) {closing : Text}
    (h : closing = [] ∨ closing = ['\n']) :
    read (t ++ '\n' :: (Text.join ['\n'] (ss.map line) ++ closing)) = .ok (ss.foldl apply c) := by
  have one_line : ∀ l ∈ ss.map line, '\n' ∉ l := by
    simpa using fun s hs => (lines s hs).1
  obtain ⟨rest, cut, rest_empty⟩ := Text.exists_splitAll_join one_line h
  rw [read_append_lineFeed accepted, cut, readLines_append,
    readLines_map c _ fun s hs => (lines s hs).2]
  exact readLines_of_empty _ _ rest_empty

end GridFilter.Config
