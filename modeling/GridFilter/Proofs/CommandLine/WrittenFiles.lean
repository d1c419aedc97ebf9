/-
The files that calls of the program write.

Of all commands only one changes the store, the one that creates the sample settings. It
follows its path twice. First it looks whether the path leads to anything, and if so, leaves
everything as it is. Otherwise it makes the directories in front of the last name, and
then follows the path again to write the file. It does not look again before it writes, so
what counts is where the path leads now, and there may be a file already.

A call writes a file where a path that led nowhere leads when the call has succeeded
(`Call.WritesAt`), and this is all that becomes of files (`Call.effect`). So along any number
of calls a file is lost if one of them writes at its place, unless it was the sample in
the first place, and in no other way (`afterCalls_keeps_unwritten_files`). It takes a path
with two dots to do that (`Call.not_writesAt`), and one such path does
(`afterCalls_loses_file_above_new_directory`).
-/
import GridFilter.CommandLine.Run
import GridFilter.Proofs.FileStore.Growth

set_option autoImplicit false

namespace GridFilter

namespace CommandLine

/-! ## Commands that change nothing -/

/-- Filtering a table leaves the files as they are. -/
theorem store_filterTable (store : FileStore) (r : FilterRequest) (c : Config)
    (contents : Text) : (filterTable store r c contents).store = store := by
  rw [filterTable]
  cases r.json <;> rfl

/-- **Only one command changes files.** -/
theorem Environment.store_run (env : Environment) {i : Invocation}
    (other : i.command ≠ .initConfig) : (env.run i).store = env.store := by
  obtain ⟨config, command⟩ := i
  cases command with
  | filter r =>
    simp only [run]
    cases env.loadConfig config with
    | error e => rfl
    | ok c =>
      simp only [runFilter]
      cases env.readTable r.file with
      | error e => rfl
      | ok contents => exact store_filterTable _ _ _ _
  | parse query => rfl
  | compose current label mods =>
    simp only [run]
    cases env.loadConfig config with
    | error e => rfl
    | ok c =>
      simp only [runCompose]
      cases c.quickItem? label <;> rfl
  | initConfig => exact absurd rfl other
  | showConfig =>
    simp only [run, runShowConfig]
    cases env.loadConfig config <;> rfl
  | validateConfig =>
    simp only [run, runValidateConfig]
    split
    · split <;> rfl
    · split <;> rfl
  | help => rfl

/-! ## The command that creates the sample settings -/

/-- The sample settings begin with a comment. -/
theorem head?_sample : Config.sample.head? = some '#' := by
  unfold Config.sample
  simp only [String.toList_append, List.head?_append]
  rfl

/-- The file with the sample settings. -/
def sampleFile : FileEntry := .file (String.ofList Config.sample).toUTF8

/-- **What creating the sample settings comes to.** Directories are made. If all goes well,
the path leads, when they are there, to no directory, and the file is put there. -/
theorem Environment.createConfig_cases (env : Environment) (path : Text) :
    (env.createConfig path).exitCode = 1 ∧
        env.store.DirectoriesMade (env.createConfig path).store ∨
      ∃ t p, env.store.DirectoriesMade t ∧ t.resolve path = .ok p ∧ t.get? p ≠ some .directory ∧
        (env.createConfig path).exitCode = 0 ∧
        (env.createConfig path).store = t.put p sampleFile := by
  unfold createConfig
  generalize (FileStore.parentPath? path).getD [] = parent
  have made := FileStore.DirectoriesMade.makeDirectories (s := env.store) .unchanged
    (parent.length + 1) parent
  dsimp only
  generalize env.store.makeDirectories (parent.length + 1) parent = result at made ⊢
  obtain ⟨t, fault⟩ := result
  cases fault with
  | some e => exact .inl ⟨rfl, made⟩
  | none =>
    dsimp only
    cases written : t.writeText path Config.sample with
    | error e => exact .inl ⟨rfl, made⟩
    | ok u =>
      obtain ⟨-, p, leads, free, rfl⟩ := FileStore.writeText_eq_ok_iff.1 written
      exact .inr ⟨t, p, made, leads, free, rfl, rfl⟩

/-! ## One call -/

/-- A call of the program. Nothing of it depends on the files or on other calls. -/
structure Call where
  home : Text
  workingDirectory : Place
  input : ByteArray
  arguments : List Text

namespace Call

/-- What a call finds where these files are. -/
def environment (c : Call) (s : FileStore) : Environment where
  home := c.home
  input := c.input
  store := { s with workingDirectory := c.workingDirectory }

/-- What a call comes to where these files are. -/
def outcome (c : Call) (s : FileStore) : Outcome := (c.environment s).runArguments c.arguments

/-- The path at which a call is to create the sample settings, if this is what its arguments
ask for: the one that is named, or the default one. -/
def created? (c : Call) : Option Text :=
  match readArguments c.arguments with
  | .ok { config, command := .initConfig } => some (config.getD (defaultConfigPath c.home))
  | _ => none

/-- A call writes a file at a place: it is to create the sample settings at a path that leads
nowhere, it succeeds, and then the path leads to the place. -/
def WritesAt (c : Call) (s : FileStore) (p : Place) : Prop :=
  ∃ path, c.created? = some path ∧ (c.environment s).store.hasPath path = false ∧
    (c.outcome s).exitCode = 0 ∧ (c.outcome s).store.resolve path = .ok p

variable {c : Call} {s t : FileStore} {p : Place} {path : Text} {bytes : ByteArray}

/-- A call that is to create something does it at one path. -/
theorem writesAt_iff (created : c.created? = some path) :
    c.WritesAt s p ↔ (c.environment s).store.hasPath path = false ∧ (c.outcome s).exitCode = 0 ∧
      (c.outcome s).store.resolve path = .ok p := by
  rw [WritesAt, created]
  simp only [Option.some.injEq, exists_eq_left']

/-- A call that is to create nothing writes no file. -/
theorem not_writesAt_of_created?_eq_none (nothing : c.created? = none) : ¬ c.WritesAt s p := by
  rintro ⟨path, created, -⟩
  rw [nothing] at created
  cases created

/-- And it leaves the files as they are. -/
theorem store_outcome_of_created?_eq_none (nothing : c.created? = none) :
    (c.outcome s).store = (c.environment s).store := by
  unfold created? at nothing
  rw [outcome, Environment.runArguments]
  cases arguments : readArguments c.arguments with
  | error e => cases e <;> rfl
  | ok i =>
    refine Environment.store_run _ fun command => ?_
    -- The one command that is left would have had something to create.
    obtain ⟨config, _⟩ := i
    cases command
    rw [arguments] at nothing
    cases nothing

/-- A call that is to create the sample settings looks first. -/
theorem outcome_of_created? (created : c.created? = some path) :
    c.outcome s =
      if (c.environment s).store.hasPath path then
        { output := path ++ " already exists\n".toList, store := (c.environment s).store }
      else (c.environment s).createConfig path := by
  unfold created? at created
  split at created
  · rename_i config arguments
    cases created
    rw [outcome, Environment.runArguments, arguments]
    rfl
  · cases created

/-- **What can become of the files in one call.** Either no file is written, or one is, and
directories are made before. -/
inductive Effect (c : Call) (s : FileStore) : Prop where
  | noFile (made : (c.environment s).store.DirectoriesMade (c.outcome s).store)
      (nowhere : ∀ p, ¬ c.WritesAt s p)
  | oneFile (t : FileStore) (path : Text) (p : Place) (created : c.created? = some path)
      (made : (c.environment s).store.DirectoriesMade t) (leads : t.resolve path = .ok p)
      (free : t.get? p ≠ some .directory) (store : (c.outcome s).store = t.put p sampleFile)
      (here : ∀ q, c.WritesAt s q ↔ q = p)

theorem effect (c : Call) (s : FileStore) : c.Effect s := by
  cases created : c.created? with
  | none =>
    refine .noFile ?_ fun p => not_writesAt_of_created?_eq_none created
    rw [store_outcome_of_created?_eq_none created]
    exact .unchanged
  | some path =>
    have comes := outcome_of_created? (s := s) created
    cases found : (c.environment s).store.hasPath path with
    | true =>
      -- The call stops before it does anything.
      rw [found, if_pos rfl] at comes
      refine .noFile ?_ fun p => ?_
      · rw [comes]
        exact .unchanged
      · simp [writesAt_iff created, found]
    | false =>
      rw [found, if_neg Bool.false_ne_true] at comes
      rcases (c.environment s).createConfig_cases path with
        ⟨fails, made⟩ | ⟨t, p, made, leads, free, succeeds, store⟩
      · -- Directories may have been made all the same.
        refine .noFile (by rwa [comes]) fun p => ?_
        simp [writesAt_iff created, comes, fails]
      · rw [← comes] at succeeds store
        refine .oneFile t path p created made leads free store fun q => ?_
        -- Putting the file there does not change where the path leads.
        have leads_after : (c.outcome s).store.resolve path = .ok p := by
          rw [store]
          exact (FileStore.Grown.put free sampleFile).resolve rfl leads
        rw [writesAt_iff created, leads_after]
        simp [found, succeeds, eq_comm]

/-- **The files after one call.** Where it writes a file, there is the sample, and everywhere
else is the file that was there. -/
theorem get?_outcome_eq_file_iff :
    (c.outcome s).store.get? p = some (.file bytes) ↔
      s.get? p = some (.file bytes) ∧ ¬ c.WritesAt s p ∨
        .file bytes = sampleFile ∧ c.WritesAt s p := by
  cases c.effect s with
  | noFile made nowhere =>
    rw [made.get?_eq_file_iff]
    simp only [nowhere p, not_false_eq_true, and_true, and_false, or_false]
    rfl
  | oneFile t _ q _ made _ free store here =>
    rw [store, FileStore.get?_put_of_ne_directory free, here]
    by_cases same : p = q
    · simp [same, eq_comm]
    · rw [if_neg same, made.get?_eq_file_iff]
      simp only [same, not_false_eq_true, and_true, and_false, or_false]
      rfl

/-- No call takes anything away. -/
theorem grown_outcome (c : Call) (s : FileStore) : s.Grown (c.outcome s).store := by
  -- Where relative paths begin makes no difference to what is there.
  have same : s.Grown (c.environment s).store := ⟨fun _ => id, fun _ => id⟩
  cases c.effect s with
  | noFile made _ => exact same.trans made.grown
  | oneFile t _ p _ made _ free store _ =>
    rw [store]
    exact same.trans (made.grown.trans (.put free sampleFile))

/-- Nor does it put anything that is not in a directory. -/
theorem isTree_outcome (tree : s.IsTree) (c : Call) : (c.outcome s).store.IsTree := by
  have tree' : (c.environment s).store.IsTree := tree
  cases c.effect s with
  | noFile made _ => exact tree'.directoriesMade made
  | oneFile t _ p _ made leads free store _ =>
    have tree_made : t.IsTree := tree'.directoriesMade made
    rw [store]
    exact tree_made.put (tree_made.get?_dropLast_of_resolve leads) free sampleFile

/-- **A path that leads somewhere is left alone.** -/
theorem outcome_of_hasPath (created : c.created? = some path)
    (found : (c.environment s).store.hasPath path = true) :
    (c.outcome s).exitCode = 0 ∧ (c.outcome s).store = (c.environment s).store := by
  rw [outcome_of_created? created, if_pos found]
  exact ⟨rfl, rfl⟩

/-- **A path without two dots spares all that is there.** -/
theorem not_writesAt (tree : s.IsTree)
    (down : ∀ path, c.created? = some path → ['.', '.'] ∉ path.splitAll '/')
    (old : (s.get? p).isSome = true) : ¬ c.WritesAt s p := by
  intro writes
  have tree' : (c.environment s).store.IsTree := tree
  cases c.effect s with
  | noFile _ nowhere => exact nowhere p writes
  | oneFile t path q created made leads _ _ here =>
    -- The place is old, so the path led there before anything was made.
    cases (here p).1 writes
    obtain ⟨missing, -, -⟩ := (writesAt_iff created).1 writes
    have led := FileStore.resolve_of_directoriesMade tree' made (down path created) leads old
    have found := FileStore.hasPath_eq_true_iff.2 ⟨p, led, old⟩
    rw [missing] at found
    cases found

end Call

end CommandLine

/-! ## Calls one after the other -/

open CommandLine

namespace FileStore

variable {s : FileStore} {c : Call} {calls : List Call} {p : Place} {bytes : ByteArray}

/-- The files after calls. -/
def afterCalls (s : FileStore) (calls : List Call) : FileStore :=
  calls.foldl (fun s c => (c.outcome s).store) s

/-- One of the calls, when its turn comes, writes a file at the place. -/
def WrittenBy (s : FileStore) (calls : List Call) (p : Place) : Prop :=
  ∃ before c later, calls = before ++ c :: later ∧ c.WritesAt (s.afterCalls before) p

/-- What every call preserves is preserved by calls one after the other. -/
theorem afterCalls_preserves {P : FileStore → Prop}
    (step : ∀ (c : Call) (s : FileStore), P s → P (c.outcome s).store) (calls : List Call)
    (start : P s) : P (s.afterCalls calls) := by
  induction calls generalizing s with
  | nil => exact start
  | cons c calls ih => exact ih (step c s start)

theorem grown_afterCalls (s : FileStore) (calls : List Call) : s.Grown (s.afterCalls calls) :=
  afterCalls_preserves (fun c _ grown => grown.trans (c.grown_outcome _)) calls (.refl s)

theorem isTree_afterCalls (tree : s.IsTree) (calls : List Call) : (s.afterCalls calls).IsTree :=
  afterCalls_preserves (P := IsTree) (fun c _ tree => Call.isTree_outcome tree c) calls tree

theorem not_writtenBy_nil : ¬ s.WrittenBy [] p := by
  rintro ⟨before, c, later, calls, -⟩
  exact List.append_ne_nil_of_right_ne_nil before (List.cons_ne_nil c later) calls.symm

/-- The first call writes the file, or one of those that are made after it. -/
theorem writtenBy_cons_iff :
    s.WrittenBy (c :: calls) p ↔ c.WritesAt s p ∨ (c.outcome s).store.WrittenBy calls p := by
  constructor
  · rintro ⟨before, d, later, split, writes⟩
    cases before with
    | nil =>
      cases split
      exact .inl writes
    | cons b before =>
      cases split
      exact .inr ⟨before, d, later, rfl, writes⟩
  · rintro (writes | ⟨before, d, later, rfl, writes⟩)
    · exact ⟨[], c, calls, rfl, writes⟩
    · exact ⟨c :: before, d, later, rfl, writes⟩

/-- **The files after calls.** Where one of the calls writes a file, there is the sample in the
end, and everywhere else is the file that was there. -/
theorem get?_afterCalls_eq_file_iff :
    (s.afterCalls calls).get? p = some (.file bytes) ↔
      s.get? p = some (.file bytes) ∧ ¬ s.WrittenBy calls p ∨
        .file bytes = sampleFile ∧ s.WrittenBy calls p := by
  induction calls generalizing s with
  | nil => simp [afterCalls, not_writtenBy_nil]
  | cons c calls ih =>
    -- The other calls begin where the first one ends.
    have onward : (s.afterCalls (c :: calls)).get? p = some (.file bytes) ↔ _ := ih
    rw [onward, Call.get?_outcome_eq_file_iff, writtenBy_cons_iff]
    by_cases now : c.WritesAt s p <;>
      by_cases later : (c.outcome s).store.WrittenBy calls p <;> simp [now, later]

/-- Paths without two dots spare all files, however many calls there are. -/
theorem not_writtenBy (tree : s.IsTree)
    (down : ∀ c ∈ calls, ∀ path, c.created? = some path → ['.', '.'] ∉ path.splitAll '/')
    (old : (s.get? p).isSome = true) : ¬ s.WrittenBy calls p := by
  rintro ⟨before, c, later, rfl, writes⟩
  have mem : c ∈ before ++ c :: later := List.mem_append_right before List.mem_cons_self
  exact Call.not_writesAt (isTree_afterCalls tree before) (down c mem)
    ((grown_afterCalls s before).there p old) writes

/-- **What becomes of files when the program is called again and again.** Let calls be made one
after the other, with any arguments, from any home and working directory.

A file that is there in the beginning is there in the end with the same contents, unless a
call writes at its place: one that creates the sample settings, succeeds, and does so at a path
that leads nowhere when the call begins and to this file when it ends. Then the file holds the
sample. So every file of the end either was there in the beginning, or is the sample and
was written by such a call. A call that is to create the sample at a path that leads to
something when these calls begin succeeds after them, and leaves everything as it is. And
if everything is in a directory in the beginning, and no path at which the sample is to be
created has two dots among its names, no file is lost. -/
theorem afterCalls_keeps_unwritten_files (s : FileStore) (calls : List Call) :
    (∀ p bytes, s.get? p = some (.file bytes) →
      ((s.afterCalls calls).get? p = some (.file bytes) ↔
        .file bytes = sampleFile ∨ ¬ s.WrittenBy calls p)) ∧
    (∀ p bytes, (s.afterCalls calls).get? p = some (.file bytes) ↔
      s.get? p = some (.file bytes) ∧ ¬ s.WrittenBy calls p ∨
        .file bytes = sampleFile ∧ s.WrittenBy calls p) ∧
    (∀ (c : Call) path, c.created? = some path → (c.environment s).store.hasPath path = true →
      (c.outcome (s.afterCalls calls)).exitCode = 0 ∧
        (c.outcome (s.afterCalls calls)).store = (c.environment (s.afterCalls calls)).store) ∧
    (s.IsTree →
      (∀ c ∈ calls, ∀ path, c.created? = some path → ['.', '.'] ∉ path.splitAll '/') →
      ∀ p bytes, s.get? p = some (.file bytes) →
        (s.afterCalls calls).get? p = some (.file bytes)) := by
  refine ⟨fun p bytes old => ?_, fun p bytes => get?_afterCalls_eq_file_iff,
    fun c path created found => ?_, fun tree down p bytes old => ?_⟩
  · rw [get?_afterCalls_eq_file_iff, and_iff_right old]
    by_cases written : s.WrittenBy calls p <;> simp [written]
  · have grown : (c.environment s).store.Grown (c.environment (s.afterCalls calls)).store :=
      ⟨(grown_afterCalls s calls).directory, (grown_afterCalls s calls).there⟩
    exact Call.outcome_of_hasPath created (grown.hasPath rfl found)
  · have spared : ¬ s.WrittenBy calls p := not_writtenBy tree down (by rw [old]; rfl)
    exact get?_afterCalls_eq_file_iff.2 (.inl ⟨old, spared⟩)

/-- A file `f`, and a call that makes the directory `d` beside it and the sample in there. When it
is made again, after another call, it changes nothing. -/
theorem afterCalls_keeps_unwritten_files_second_call :
    let old : FileEntry := .file (String.ofList "min_rows = 0\n".toList).toUTF8
    let s : FileStore := { entries := [([['f']], old)], workingDirectory := [] }
    let call (arguments : List String) : Call :=
      { home := [], workingDirectory := [], input := .empty,
        arguments := arguments.map String.toList }
    let create := call ["init-config", "--config", "d/c"]
    let compose := call ["compose", "a", "b", "--config=d/c"]
    let t := s.afterCalls [create]
    s.IsTree ∧ t.get? [['f']] = some old ∧ t.get? [['d'], ['c']] = some sampleFile ∧
      s.WrittenBy [create] [['d'], ['c']] ∧
      (create.outcome (t.afterCalls [compose])).exitCode = 0 ∧
      (create.outcome (t.afterCalls [compose])).store =
        (create.environment (t.afterCalls [compose])).store := by
  intro old s call create compose t
  have tree : s.IsTree := (IsTree.empty []).put (p := [['f']]) rfl nofun old
  have created : create.created? = some "d/c".toList := by decide +kernel
  have down : ∀ c ∈ [create], ∀ path, c.created? = some path →
      ['.', '.'] ∉ path.splitAll '/' := by
    intro c mem path created'
    rw [List.mem_singleton.1 mem, created] at created'
    cases created'
    decide
  have new : t.get? [['d'], ['c']] = some sampleFile := by rfl
  have found : (create.environment t).store.hasPath "d/c".toList = true := by rfl
  obtain ⟨_, origin, _, kept⟩ := afterCalls_keeps_unwritten_files s [create]
  obtain ⟨_, _, again, _⟩ := afterCalls_keeps_unwritten_files t [compose]
  have written : s.WrittenBy [create] [['d'], ['c']] := by
    rcases (origin _ _).1 new with ⟨old, _⟩ | ⟨_, written⟩
    · cases old
    · exact written
  exact ⟨tree, kept tree down [['f']] _ rfl, new, written, again create _ created found⟩

/-- **A file is lost by a path that goes up out of a directory that it makes.** The path leads
nowhere as long as `n` is missing, and then to the file beside it. -/
theorem afterCalls_loses_file_above_new_directory :
    let old : FileEntry := .file (String.ofList "min_rows = 0\n".toList).toUTF8
    let s : FileStore := { entries := [([['f']], old)], workingDirectory := [] }
    let c : Call :=
      { home := [], workingDirectory := [], input := .empty,
        arguments := ["--config", "n/../f", "init-config"].map String.toList }
    s.IsTree ∧ s.get? [['f']] = some old ∧ (c.outcome s).output = "Created n/../f\n".toList ∧
      (s.afterCalls [c]).get? [['f']] = some sampleFile ∧
      (s.afterCalls [c]).get? [['f']] ≠ some old := by
  intro old s c
  have tree : s.IsTree := (IsTree.empty []).put (p := [['f']]) rfl nofun old
  have lost : (s.afterCalls [c]).get? [['f']] = some sampleFile := by rfl
  have other : sampleFile ≠ old := by
    intro same
    have first : Config.sample.head? = some 'm' :=
      congrArg List.head? (FileEntry.text_eq_of_file_eq same)
    rw [head?_sample] at first
    cases first
  exact ⟨tree, rfl, by rfl, lost, fun kept => other (Option.some.inj (lost.symm.trans kept))⟩

end FileStore

end GridFilter
