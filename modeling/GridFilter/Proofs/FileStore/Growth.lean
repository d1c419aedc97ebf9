/-
Stores that grow.

Nothing is ever taken out of a store. A directory is made where nothing is, and a file is
written where there is nothing or another file. So directories stay what they are
(`Grown`), and a path that leads somewhere goes on leading there (`Grown.resolve`).

A path that leads nowhere may lead somewhere when directories have been made
(`DirectoriesMade`), and not only to them. It may go up again, by two dots, out of a
directory that was made, and come to what has been there all the time. If everything in
the store is in a directory, nothing but two dots can do that: a path without them that
now leads to something old has led to it before (`resolve_of_directoriesMade`).
-/
import Mathlib.Data.List.DropRight
import Mathlib.Data.List.Induction
import GridFilter.FileStore

set_option autoImplicit false

namespace GridFilter

/-- Files that hold the same hold the same text. -/
theorem FileEntry.text_eq_of_file_eq {a b : Text}
    (same : FileEntry.file (String.ofList a).toUTF8 = .file (String.ofList b).toUTF8) : a = b :=
  String.ofList_injective (String.toByteArray_inj.1 (FileEntry.file.inj same))

/-- What is done in two steps succeeds if both steps do. -/
theorem bind_eq_ok_iff {ε α β : Type} {x : Except ε α} {f : α → Except ε β} {b : β} :
    x >>= f = .ok b ↔ ∃ a, x = .ok a ∧ f a = .ok b := by
  cases x with
  | error e => exact iff_of_false nofun nofun
  | ok a => simp [bind, Except.bind]

namespace FileStore

variable {s t u : FileStore} {p q : Place} {path name : Text} {names : List Text}

/-! ## Names one by one -/

/-- The place that a name leads to from a place. -/
def enter (p : Place) (name : Text) : Place :=
  if name = [] ∨ name = ['.'] then p else if name = ['.', '.'] then p.dropLast else p ++ [name]

/-- **One name.** It is followed from a directory. -/
theorem follow_cons_eq_ok_iff :
    s.follow p (name :: names) = .ok q ↔
      s.get? p = some .directory ∧ s.follow (enter p name) names = .ok q := by
  rw [follow]
  cases here : s.get? p with
  | none => simp
  | some entry =>
    cases entry with
    | file bytes => simp
    | directory =>
      simp only [enter, true_and]
      by_cases stays : name = [] ∨ name = ['.']
      · rw [if_pos stays, if_pos stays]
      · rw [if_neg stays, if_neg stays]
        by_cases up : name = ['.', '.']
        · rw [if_pos up, if_pos up]
        · rw [if_neg up, if_neg up]

/-- Where a path begins. -/
def startOf (s : FileStore) (path : Text) : Place :=
  if path.head? = some '/' then [] else s.workingDirectory

/-- A path leads where its names lead from where it begins. The empty name in front of
the first slash stays at the root. -/
theorem resolve_eq_ok_iff :
    s.resolve path = .ok q ↔
      path ≠ [] ∧ s.follow (s.startOf path) (path.splitAll '/') = .ok q := by
  unfold resolve
  split
  · simp
  · rename_i rest
    have names : Text.splitAll '/' ('/' :: rest) = [] :: Text.splitAll '/' rest := by
      rw [Text.splitAll, Text.splitWhere_cons]
      rfl
    rw [names, follow_cons_eq_ok_iff]
    simp [startOf, enter, get?]
  · rename_i relative absolute
    have start : s.startOf path = s.workingDirectory := by
      refine if_neg fun slash => ?_
      obtain ⟨rest, rfl⟩ : ∃ rest, path = '/' :: rest := by
        cases path with
        | nil => cases slash
        | cons c rest => exact ⟨rest, by rw [Option.some.inj slash]⟩
      exact absolute rest rfl
    rw [start, and_iff_right relative]

/-- What a path leads to is at its place. -/
theorem find_eq_ok_iff {e : FileEntry} :
    s.find path = .ok e ↔ ∃ p, s.resolve path = .ok p ∧ s.get? p = some e := by
  rw [find, bind_eq_ok_iff]
  refine exists_congr fun p => and_congr_right fun _ => ?_
  cases s.get? p with
  | none => exact iff_of_false nofun nofun
  | some entry => simp [pure, Except.pure]

/-- A path leads to something if there is something at its place. -/
theorem hasPath_eq_true_iff :
    s.hasPath path = true ↔ ∃ p, s.resolve path = .ok p ∧ (s.get? p).isSome = true := by
  have found : s.hasPath path = true ↔ ∃ e, s.find path = .ok e := by
    rw [hasPath]
    cases s.find path <;> simp [Except.toOption]
  simp only [found, find_eq_ok_iff, Option.isSome_iff_exists]
  rw [exists_comm]
  simp only [exists_and_left]

/-! ## One operation -/

/-- What is put where no directory is, and so not at the root, is there, and nothing else has
changed. -/
theorem get?_put_of_ne_directory (free : s.get? p ≠ some .directory) (q : Place) (e : FileEntry) :
    (s.put p e).get? q = if q = p then some e else s.get? q := by
  have below_root : p ≠ [] := by
    rintro rfl
    exact free rfl
  exact s.get?_put below_root q e

/-- A directory is made where nothing is. -/
theorem makeDirectory_eq_ok_iff :
    s.makeDirectory path = .ok t ↔
      ∃ p, s.resolve path = .ok p ∧ s.get? p = none ∧ t = s.put p .directory := by
  rw [makeDirectory, bind_eq_ok_iff]
  refine exists_congr fun p => and_congr_right fun _ => ?_
  cases s.get? p with
  | none => simp [pure, Except.pure, eq_comm]
  | some entry => exact iff_of_false nofun nofun

/-- A file is written where no directory is, if its path does not end in a slash. -/
theorem writeText_eq_ok_iff {contents : Text} :
    s.writeText path contents = .ok t ↔
      path.getLast? ≠ some '/' ∧ ∃ p, s.resolve path = .ok p ∧ s.get? p ≠ some .directory ∧
        t = s.put p (.file (String.ofList contents).toUTF8) := by
  simp only [writeText, bind_eq_ok_iff]
  by_cases slash : path.getLast? = some '/'
  · -- It is refused, whether or not anything is found to its left.
    refine iff_of_false ?_ fun h => h.1 slash
    rintro ⟨p, -, written⟩
    rw [slash] at written
    cases written
  · have whole : (path.reverse.dropWhile (· == '/')).reverse = path := by
      refine List.rdropWhile_eq_self_iff.2 fun ne last => slash ?_
      rw [List.getLast?_eq_some_getLast ne, eq_of_beq last]
    rw [whole, and_iff_right slash]
    refine exists_congr fun p => and_congr_right fun _ => ?_
    rw [beq_false_of_ne slash, if_neg Bool.false_ne_true]
    cases s.get? p with
    | none => simp [pure, Except.pure, eq_comm]
    | some entry =>
      cases entry with
      | directory => exact iff_of_false nofun fun h => h.1 rfl
      | file bytes => simp [pure, Except.pure, eq_comm]

/-! ## Stores that grow -/

/-- Directories stay directories, and where there was something there is something. -/
structure Grown (s t : FileStore) : Prop where
  directory : ∀ p, s.get? p = some .directory → t.get? p = some .directory
  there : ∀ p, (s.get? p).isSome = true → (t.get? p).isSome = true

namespace Grown

theorem refl (s : FileStore) : s.Grown s := ⟨fun _ => id, fun _ => id⟩

theorem trans (first : s.Grown t) (second : t.Grown u) : s.Grown u :=
  ⟨fun p => second.directory p ∘ first.directory p, fun p => second.there p ∘ first.there p⟩

/-- Putting something where no directory is lets a store grow. -/
theorem put (free : s.get? p ≠ some .directory) (e : FileEntry) : s.Grown (s.put p e) := by
  constructor
  · intro q directory
    have elsewhere : q ≠ p := by
      rintro rfl
      exact free directory
    rw [get?_put_of_ne_directory free, if_neg elsewhere, directory]
  · intro q there
    rw [get?_put_of_ne_directory free]
    split
    · rfl
    · exact there

/-- Names that lead somewhere go on leading there. -/
theorem follow (grown : s.Grown t) (leads : s.follow p names = .ok q) :
    t.follow p names = .ok q := by
  induction names generalizing p with
  | nil => exact leads
  | cons name names ih =>
    obtain ⟨directory, onward⟩ := follow_cons_eq_ok_iff.1 leads
    exact follow_cons_eq_ok_iff.2 ⟨grown.directory p directory, ih onward⟩

/-- So do paths that begin at the same place. -/
theorem resolve (grown : s.Grown t) (here : t.workingDirectory = s.workingDirectory)
    (leads : s.resolve path = .ok q) : t.resolve path = .ok q := by
  obtain ⟨ne, follows⟩ := resolve_eq_ok_iff.1 leads
  have start : t.startOf path = s.startOf path := by rw [startOf, startOf, here]
  exact resolve_eq_ok_iff.2 ⟨ne, by rw [start, grown.follow follows]⟩

/-- What is found is found later. -/
theorem hasPath (grown : s.Grown t) (here : t.workingDirectory = s.workingDirectory)
    (found : s.hasPath path = true) : t.hasPath path = true := by
  obtain ⟨p, leads, there⟩ := hasPath_eq_true_iff.1 found
  exact hasPath_eq_true_iff.2 ⟨p, grown.resolve here leads, grown.there p there⟩

end Grown

/-! ## Directories that are made -/

/-- The second store is the first one after directories were made in it, one after the
other. -/
inductive DirectoriesMade (s : FileStore) : FileStore → Prop where
  | unchanged : DirectoriesMade s s
  | more {t u : FileStore} {path : Text} (before : DirectoriesMade s t)
      (made : t.makeDirectory path = .ok u) : DirectoriesMade s u

/-- A directory with all that lead to it is made by making one after the other, also if
something goes wrong on the way. -/
theorem DirectoriesMade.makeDirectories (before : s.DirectoriesMade t) (fuel : Nat) (path : Text) :
    s.DirectoriesMade (t.makeDirectories fuel path).1 := by
  induction fuel generalizing t path with
  | zero => exact before
  | succ fuel ih =>
    unfold FileStore.makeDirectories
    split
    · exact before
    · split
      · rename_i made
        exact before.more made
      · -- Something in front of the path is missing, and is made before the path itself.
        cases parentPath? path with
        | none => exact before
        | some parent =>
          have parents := ih before parent
          dsimp only
          generalize t.makeDirectories fuel parent = result at parents ⊢
          obtain ⟨u, fault⟩ := result
          cases fault with
          | some e => exact parents
          | none =>
            dsimp only
            split
            · rename_i made
              exact parents.more made
            · exact parents
      · exact before

/-- Directories are put where nothing was, and nothing else changes. -/
theorem DirectoriesMade.get? (made : s.DirectoriesMade t) (p : Place) :
    t.get? p = s.get? p ∨ s.get? p = none ∧ t.get? p = some .directory := by
  induction made with
  | unchanged => exact .inl rfl
  | more _ made ih =>
    obtain ⟨q, -, nothing, rfl⟩ := makeDirectory_eq_ok_iff.1 made
    rw [get?_put_of_ne_directory (by simp [nothing])]
    split
    · rename_i here
      rw [here] at ih ⊢
      rcases ih with same | ⟨nothing_before, -⟩
      · exact .inr ⟨same.symm.trans nothing, rfl⟩
      · exact .inr ⟨nothing_before, rfl⟩
    · exact ih

/-- So the files are the same. -/
theorem DirectoriesMade.get?_eq_file_iff (made : s.DirectoriesMade t) {bytes : ByteArray} :
    t.get? p = some (.file bytes) ↔ s.get? p = some (.file bytes) := by
  rcases made.get? p with same | ⟨nothing, directory⟩
  · rw [same]
  · simp [nothing, directory]

/-- And the store has grown. -/
theorem DirectoriesMade.grown (made : s.DirectoriesMade t) : s.Grown t := by
  constructor
  · intro p directory
    rcases made.get? p with same | ⟨-, directory'⟩
    · exact same.trans directory
    · exact directory'
  · intro p there
    rcases made.get? p with same | ⟨-, directory⟩
    · rwa [same]
    · rw [directory]
      rfl

theorem DirectoriesMade.workingDirectory (made : s.DirectoriesMade t) :
    t.workingDirectory = s.workingDirectory := by
  induction made with
  | unchanged => rfl
  | more _ made ih =>
    obtain ⟨q, -, -, rfl⟩ := makeDirectory_eq_ok_iff.1 made
    exact ih

/-! ## Stores in which everything is in a directory -/

/-- Whatever is in the store is in a directory. -/
def IsTree (s : FileStore) : Prop :=
  ∀ p, (s.get? p).isSome = true → s.get? p.dropLast = some .directory

namespace IsTree

/-- Where there is nothing but the root, everything is in it. -/
theorem empty (workingDirectory : Place) : IsTree { entries := [], workingDirectory } := by
  intro p there
  cases p with
  | nil => rfl
  | cons name names => cases there

/-- What leads to something is something. -/
theorem isSome_of_prefix (tree : s.IsTree) (front : p <+: q) (there : (s.get? q).isSome = true) :
    (s.get? p).isSome = true := by
  obtain ⟨rest, rfl⟩ := front
  induction rest using List.reverseRecOn with
  | nil => rwa [List.append_nil] at there
  | append_singleton rest name ih =>
    -- The last name is taken off: what it was in is a directory, and so something.
    have parent := tree _ there
    rw [← List.append_assoc, List.dropLast_concat] at parent
    exact ih (by rw [parent]; rfl)

/-- Names lead to a place in a directory, if there are any, or else stay where they begin. -/
theorem get?_dropLast_of_follow (tree : s.IsTree) (leads : s.follow p names = .ok q)
    (start : names = [] → s.get? p.dropLast = some .directory) :
    s.get? q.dropLast = some .directory := by
  induction names generalizing p with
  | nil =>
    cases leads
    exact start rfl
  | cons name names ih =>
    obtain ⟨directory, onward⟩ := follow_cons_eq_ok_iff.1 leads
    -- The name is followed from a directory, which is itself in one.
    have parent : s.get? p.dropLast = some .directory := tree p (by rw [directory]; rfl)
    refine ih onward fun _ => ?_
    unfold enter
    split
    · exact parent
    · split
      · exact tree _ (by rw [parent]; rfl)
      · rw [List.dropLast_concat, directory]

/-- A path leads to a place in a directory, whether or not there is anything at it. -/
theorem get?_dropLast_of_resolve (tree : s.IsTree) (leads : s.resolve path = .ok q) :
    s.get? q.dropLast = some .directory := by
  obtain ⟨-, follows⟩ := resolve_eq_ok_iff.1 leads
  exact tree.get?_dropLast_of_follow follows fun none =>
    absurd none (Text.splitWhere_ne_nil _ path)

/-- Putting something in a directory, where no directory is, keeps everything in one. -/
theorem put (tree : s.IsTree) (parent : s.get? p.dropLast = some .directory)
    (free : s.get? p ≠ some .directory) (e : FileEntry) : (s.put p e).IsTree := by
  have grown : s.Grown (s.put p e) := Grown.put free e
  intro q there
  rw [get?_put_of_ne_directory free] at there
  split at there
  · rename_i here
    rw [here]
    exact grown.directory _ parent
  · exact grown.directory _ (tree q there)

/-- Making directories keeps everything in one. -/
theorem directoriesMade (tree : s.IsTree) (made : s.DirectoriesMade t) : t.IsTree := by
  induction made with
  | unchanged => exact tree
  | more _ made ih =>
    obtain ⟨q, leads, nothing, rfl⟩ := makeDirectory_eq_ok_iff.1 made
    exact ih.put (ih.get?_dropLast_of_resolve leads) (by simp [nothing]) .directory

end IsTree

/-- Names without two dots among them lead down. -/
theorem prefix_of_follow (down : ['.', '.'] ∉ names) (leads : s.follow p names = .ok q) :
    p <+: q := by
  induction names generalizing p with
  | nil =>
    cases leads
    exact List.prefix_rfl
  | cons name names ih =>
    obtain ⟨-, onward⟩ := follow_cons_eq_ok_iff.1 leads
    rw [List.mem_cons, not_or] at down
    have front : p <+: enter p name := by
      unfold enter
      split
      · exact List.prefix_rfl
      · rw [if_neg (Ne.symm down.1)]
        exact List.prefix_append p [name]
    exact front.trans (ih down.2 onward)

/-- The way to something old leads through old things, and these are as they were. -/
theorem follow_of_directoriesMade (tree : s.IsTree) (made : s.DirectoriesMade t)
    (down : ['.', '.'] ∉ names) (leads : t.follow p names = .ok q)
    (old : (s.get? q).isSome = true) : s.follow p names = .ok q := by
  induction names generalizing p with
  | nil => exact leads
  | cons name names ih =>
    -- The directory that is left by this name is in front of something old.
    have there : (s.get? p).isSome = true :=
      tree.isSome_of_prefix (prefix_of_follow down leads) old
    have same : t.get? p = s.get? p :=
      (made.get? p).resolve_right fun new => by simp [new.1] at there
    obtain ⟨directory, onward⟩ := follow_cons_eq_ok_iff.1 leads
    rw [List.mem_cons, not_or] at down
    exact follow_cons_eq_ok_iff.2 ⟨same.symm.trans directory, ih down.2 onward⟩

/-- **Old things are not found on new ways without two dots.** -/
theorem resolve_of_directoriesMade (tree : s.IsTree) (made : s.DirectoriesMade t)
    (down : ['.', '.'] ∉ path.splitAll '/') (leads : t.resolve path = .ok q)
    (old : (s.get? q).isSome = true) : s.resolve path = .ok q := by
  obtain ⟨ne, follows⟩ := resolve_eq_ok_iff.1 leads
  have start : t.startOf path = s.startOf path := by rw [startOf, startOf, made.workingDirectory]
  rw [start] at follows
  exact resolve_eq_ok_iff.2 ⟨ne, follow_of_directoriesMade tree made down follows old⟩

end FileStore

end GridFilter
