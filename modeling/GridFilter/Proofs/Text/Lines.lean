/-
Lines and their parts, written and read back.

A line is put together from parts with a character between them. Cutting it at that
character gives the parts back if the character is in none of them (`splitAll_join`).

A file is written line by line, each ended by a line feed, with or without a carriage
return before it. Reading gives back the lines that were written if none of them holds
a line feed, where it would be cut, or ends in a carriage return, which would be taken
for part of the line ending (`lines_flatMap_lineEnd`, and `lines_flatMap` for line feeds).
-/
import GridFilter.Proofs.Text.Trim

set_option autoImplicit false

namespace GridFilter.Text

/-! ## Cuts that find nothing -/

/-- There is no first cut exactly when the character does not occur. -/
theorem splitFirst?_eq_none_iff {d : Char} {t : Text} : splitFirst? d t = none ↔ d ∉ t := by
  have cut : splitFirst? d t = none ↔ t.dropWhile (· != d) = [] := by
    unfold splitFirst?
    split <;> simp [*]
  rw [cut, List.dropWhile_eq_nil_iff]
  constructor
  · intro h hd
    exact absurd (h d hd) (by simp)
  · rintro h c hc
    exact bne_iff_ne.2 fun e => h (e ▸ hc)

/-- What stands in front of the first occurrence is determined, and so is what stands behind. -/
theorem append_cons_inj {d : Char} {s t rest rest' : Text} (hs : d ∉ s) (ht : d ∉ t) :
    s ++ d :: rest = t ++ d :: rest' ↔ s = t ∧ rest = rest' := by
  constructor
  · intro same
    have cut : splitFirst? d (s ++ d :: rest) = some (s, rest) :=
      splitFirst?_eq_some_iff.2 ⟨rfl, hs⟩
    rw [same, splitFirst?_eq_some_iff.2 ⟨rfl, ht⟩] at cut
    cases cut
    exact ⟨rfl, rfl⟩
  · rintro ⟨rfl, rfl⟩
    rfl

/-- There is no last cut exactly when the character does not occur. -/
theorem splitLast?_eq_none_iff {d : Char} {t : Text} : splitLast? d t = none ↔ d ∉ t := by
  rw [splitLast?, Option.map_eq_none_iff, splitFirst?_eq_none_iff, List.mem_reverse]

/-- A text without the character is its own only part. -/
theorem splitAll_eq_singleton {d : Char} {t : Text} (h : d ∉ t) : splitAll d t = [t] :=
  splitWhere_eq_singleton fun _ hc => beq_eq_false_iff_ne.2 fun e => h (e ▸ hc)

/-- Cutting at an occurrence cuts what is on its left and what is on its right. -/
theorem splitAll_append_cons (d : Char) (s t : Text) :
    splitAll d (s ++ d :: t) = splitAll d s ++ splitAll d t :=
  splitWhere_append_cons _ s t d (beq_self_eq_true d)

/-! ## Cutting and joining -/

theorem join_singleton (sep part : Text) : join sep [part] = part := by
  simp [join, List.intercalate]

/-- Besides those of the separator, what is joined holds the characters of its parts. -/
theorem mem_join_iff {sep : Text} {c : Char} (hc : c ∉ sep) {parts : List Text} :
    c ∈ join sep parts ↔ ∃ p ∈ parts, c ∈ p := by
  induction parts with
  | nil => simp [join, List.intercalate]
  | cons p rest ih =>
    cases rest with
    | nil => simp [join_singleton]
    | cons q rest =>
      rw [join_cons_of_ne_nil _ _ (List.cons_ne_nil q rest), List.mem_append, List.mem_append,
        or_iff_left hc, ih]
      exact (List.exists_mem_cons_iff (c ∈ ·) p (q :: rest)).symm

/-- A character that no part holds and the separator does not hold is not in the whole. -/
theorem not_mem_join {sep : Text} {c : Char} (hc : c ∉ sep) {parts : List Text}
    (h : ∀ p ∈ parts, c ∉ p) : c ∉ join sep parts := by
  rw [mem_join_iff hc]
  rintro ⟨p, hp, there⟩
  exact h p hp there

/-- What a text is cut into is made of its characters. -/
theorem mem_of_mem_splitAll {d c : Char} {t part : Text} (h : part ∈ splitAll d t)
    (hc : c ∈ part) : c ∈ t := by
  have ne : c ≠ d := by simpa using not_of_mem_splitWhere h hc
  rw [← join_splitAll d t, mem_join_iff (by simpa using ne)]
  exact ⟨part, h, hc⟩

/-- **Cutting undoes joining**, if the character occurs in none of the parts. -/
theorem splitAll_join {d : Char} {parts : List Text} (h : ∀ p ∈ parts, d ∉ p) (ne : parts ≠ []) :
    splitAll d (join [d] parts) = parts := by
  induction parts with
  | nil => exact absurd rfl ne
  | cons p rest ih =>
    obtain ⟨hp, hrest⟩ := List.forall_mem_cons.1 h
    cases rest with
    | nil =>
      rw [join_singleton, splitAll_eq_singleton hp]
    | cons q rest =>
      rw [join_cons_of_ne_nil _ _ (List.cons_ne_nil q rest), List.append_assoc,
        List.singleton_append, splitAll_append_cons, splitAll_eq_singleton hp,
        ih hrest (List.cons_ne_nil q rest), List.singleton_append]

/-- Lines behind each other, the last one ended or not, are cut where they were put
together. Without lines nothing is left but what is empty. -/
theorem exists_splitAll_join {ls : List Text} (one_line : ∀ l ∈ ls, '\n' ∉ l) {closing : Text}
    (h : closing = [] ∨ closing = ['\n']) :
    ∃ rest, splitAll '\n' (join ['\n'] ls ++ closing) = ls ++ rest ∧ ∀ l ∈ rest, l = [] := by
  have cut : ∃ rest, splitAll '\n' (join ['\n'] ls) = ls ++ rest ∧ ∀ l ∈ rest, l = [] := by
    by_cases empty : ls = []
    · rw [empty]
      exact ⟨[[]], rfl, by simp⟩
    · exact ⟨[], by rw [splitAll_join one_line empty, List.append_nil], by simp⟩
  obtain ⟨rest, cut, rest_empty⟩ := cut
  rcases h with rfl | rfl
  · exact ⟨rest, by rwa [List.append_nil], rest_empty⟩
  · refine ⟨rest ++ [[]], ?_, ?_⟩
    · rw [splitAll_append_cons, cut, List.append_assoc]
      rfl
    · intro l hl
      rcases List.mem_append.1 hl with hl | hl
      · exact rest_empty l hl
      · exact List.mem_singleton.1 hl

/-! ## Lines -/

/-- Only a carriage return at the end is lost. -/
theorem dropReturn_eq_self {line : Text} (h : line.getLast? ≠ some '\r') :
    dropReturn line = line := by
  unfold dropReturn
  split
  · rename_i rest reversed
    refine absurd ?_ h
    rw [← List.head?_reverse, reversed]
    rfl
  · rfl

theorem mem_of_mem_dropReturn {line : Text} {c : Char} (h : c ∈ dropReturn line) : c ∈ line := by
  unfold dropReturn at h
  split at h
  · rename_i rest reversed
    rw [← List.mem_reverse, reversed]
    exact List.mem_cons_of_mem _ (List.mem_reverse.1 h)
  · exact h

/-- Every line comes from a part between line feeds. -/
theorem exists_part_of_mem_endLines {parts : List Text} {line : Text}
    (h : line ∈ endLines parts) : ∃ part ∈ parts, ∀ c ∈ line, c ∈ part := by
  induction parts with
  | nil => simp [endLines] at h
  | cons part rest ih =>
    cases rest with
    | nil =>
      rw [endLines] at h
      split at h
      · simp at h
      · rw [List.mem_singleton.1 h]
        exact ⟨part, List.mem_cons_self, fun c hc => hc⟩
    | cons next rest =>
      rw [endLines] at h
      · rcases List.mem_cons.1 h with rfl | h
        · exact ⟨part, List.mem_cons_self, fun c hc => mem_of_mem_dropReturn hc⟩
        · obtain ⟨p, hp, hline⟩ := ih h
          exact ⟨p, List.mem_cons_of_mem _ hp, hline⟩
      · simp

/-- No line holds a line feed. -/
theorem lineFeed_not_mem_of_mem_lines {t line : Text} (h : line ∈ lines t) : '\n' ∉ line := by
  obtain ⟨part, hpart, hline⟩ := exists_part_of_mem_endLines h
  intro hc
  exact absurd (not_of_mem_splitWhere hpart (hline _ hc)) (by simp)

/-- A text that is not empty and holds no line feed is one line. -/
theorem lines_eq_singleton {line : Text} (h : '\n' ∉ line) (ne : line ≠ []) :
    lines line = [line] := by
  rw [lines, splitAll_eq_singleton h, endLines, if_neg (mt List.isEmpty_iff.1 ne)]

/-- The first line of a text is what stands before its first line feed. -/
theorem lines_append_cons {line t : Text} (h : '\n' ∉ line) :
    lines (line ++ '\n' :: t) = dropReturn line :: lines t := by
  rw [lines, splitAll_append_cons, splitAll_eq_singleton h, lines, List.singleton_append, endLines]
  exact splitWhere_ne_nil _ t

/-- Between the line feeds stands what was written. Nothing stands behind the last. -/
theorem splitAll_flatMap {d : Char} {ls : List Text} (h : ∀ l ∈ ls, d ∉ l) :
    splitAll d (ls.flatMap (· ++ [d])) = ls ++ [[]] := by
  induction ls with
  | nil => rfl
  | cons l ls ih =>
    obtain ⟨hl, hls⟩ := List.forall_mem_cons.1 h
    rw [List.flatMap_cons, List.append_assoc, List.singleton_append, splitAll_append_cons,
      splitAll_eq_singleton hl, ih hls]
    rfl

/-- A carriage return that was put at the end is lost. -/
theorem dropReturn_append_return (line : Text) : dropReturn (line ++ ['\r']) = line := by
  unfold dropReturn
  rw [List.reverse_append, List.reverse_singleton, List.singleton_append]
  exact List.reverse_reverse line

/-- How a line is ended. -/
inductive LineEnd where
  | feed
  | returnFeed
  deriving DecidableEq, Repr

/-- What is written behind the line. -/
def LineEnd.text : LineEnd → Text
  | feed => ['\n']
  | returnFeed => ['\r', '\n']

/-- A line that is ended either way is read without its ending. -/
theorem lines_append_lineEnd {line t : Text} (feed : '\n' ∉ line)
    (ret : line.getLast? ≠ some '\r') (ending : LineEnd) :
    lines (line ++ ending.text ++ t) = line :: lines t := by
  cases ending with
  | feed =>
    rw [LineEnd.text, List.append_assoc, List.singleton_append, lines_append_cons feed,
      dropReturn_eq_self ret]
  | returnFeed =>
    have longer : line ++ LineEnd.returnFeed.text ++ t = line ++ ['\r'] ++ '\n' :: t := by
      simp [LineEnd.text]
    have longer_feed : '\n' ∉ line ++ ['\r'] := by simp [feed]
    rw [longer, lines_append_cons longer_feed, dropReturn_append_return]

/-- **Lines that are written are read back**, however each of them is ended. -/
theorem lines_flatMap_lineEnd {α : Type} {text : α → Text} {ending : α → LineEnd} {ls : List α}
    (h : ∀ l ∈ ls, '\n' ∉ text l ∧ (text l).getLast? ≠ some '\r') :
    lines (ls.flatMap fun l => text l ++ (ending l).text) = ls.map text := by
  induction ls with
  | nil => rfl
  | cons l ls ih =>
    obtain ⟨⟨feed, ret⟩, rest⟩ := List.forall_mem_cons.1 h
    rw [List.flatMap_cons, lines_append_lineEnd feed ret, ih rest, List.map_cons]

/-- Lines that are ended by line feeds are read back. -/
theorem lines_flatMap {ls : List Text} (h : ∀ l ∈ ls, '\n' ∉ l ∧ l.getLast? ≠ some '\r') :
    lines (ls.flatMap (· ++ ['\n'])) = ls := by
  have read_back : lines (ls.flatMap fun l => id l ++ LineEnd.feed.text) = ls.map id :=
    @lines_flatMap_lineEnd Text id (fun _ => .feed) ls h
  rwa [List.map_id] at read_back

end GridFilter.Text
