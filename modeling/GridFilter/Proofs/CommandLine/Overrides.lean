/-
What a request names itself, as lines of the settings file.

The command line changes settings in its own way: it replaces a mode, a number and a tag, and
adds columns (`FilterRequest.override`). The settings file has another: every line is one
setting, carried out on what the lines above it made. The two agree. A request comes to a
list of settings (`FilterRequest.settings`), carrying them out is the override
(`foldl_settings`), and so is reading on in a file that goes on with their lines
(`read_append_settings`).

So a run with options and a run with a longer settings file say the same
(`overrides_as_lines`).
-/
import GridFilter.CommandLine.Run
import GridFilter.Proofs.Config.Continued

set_option autoImplicit false

namespace GridFilter

namespace CommandLine

open Config

/-! ## The settings of a request -/

/-- The settings that a request names itself. What it does not name is not among them. -/
def FilterRequest.settings (r : FilterRequest) : List Setting :=
  r.mode.toList.map .matchMode ++ r.minChars.toList.map .minChars ++
    (if r.ignoreColumns.isEmpty then [] else [.ignoreColumns r.ignoreColumns]) ++
    r.ignoreTag.toList.map fun tag => .ignoreTag (some tag)

/-- The request without the settings that it names itself. -/
def FilterRequest.bare (r : FilterRequest) : FilterRequest :=
  { r with mode := none, minChars := none, ignoreColumns := [], ignoreTag := none }

namespace FilterRequest

variable (r : FilterRequest)

/-- A request that names no settings is carried out under those of the file. -/
theorem bare_override (c : Config) : r.bare.override c = c := rfl

/-- **Overriding is carrying out the settings of the request.** -/
theorem foldl_settings (c : Config) : r.settings.foldl apply c = r.override c := by
  obtain ⟨query, file, format, mode, minChars, columns, tag, json⟩ := r
  cases mode <;> cases minChars <;> cases columns <;> cases tag <;> rfl

/-- The settings of a request can be written if its tag can; a quick item is not
among them. -/
theorem tidy_of_mem_settings (tag : ∀ t, r.ignoreTag = some t → t.IsValue) {s : Setting}
    (hs : s ∈ r.settings) : s.Tidy ∧ ∀ i, s ≠ .quick i := by
  simp only [settings, List.mem_append, List.mem_map, Option.mem_toList] at hs
  rcases hs with ((⟨m, -, rfl⟩ | ⟨n, -, rfl⟩) | hs) | ⟨t, ht, rfl⟩
  · exact ⟨trivial, fun i => Setting.noConfusion⟩
  · exact ⟨trivial, fun i => Setting.noConfusion⟩
  · split at hs
    · cases hs
    · rw [List.mem_singleton.1 hs]
      exact ⟨trivial, fun i => Setting.noConfusion⟩
  · refine ⟨fun t' e => ?_, fun i => Setting.noConfusion⟩
    cases e
    exact tag t ht

end FilterRequest

/-! ## Runs -/

/-- Two runs end alike and print the same. -/
structure Outcome.SaysSame (a b : Outcome) : Prop where
  exitCode : a.exitCode = b.exitCode
  output : a.output = b.output
  errors : a.errors = b.errors

namespace Environment

variable {env env' : Environment}

/-- A settings file that is there and accepted is what a run goes by. -/
theorem loadConfig_eq_ok {named : Option Text} {t : Text} {c : Config}
    (there : env.store.readText (env.configPath named) = .ok t) (accepted : Config.read t = .ok c) :
    env.loadConfig named = .ok c := by
  have found : env.store.hasPath (env.configPath named) = true := by
    by_contra gone
    obtain ⟨e, unread⟩ := FileStore.readText_eq_error (Bool.eq_false_iff.2 gone)
    rw [there] at unread
    cases unread
  rw [loadConfig, if_neg (by simp [found]), readConfig, there, configOfText, accepted]
  rfl

/-- What a filter run says depends on the settings it comes to and on the table. -/
theorem saysSame_runFilter {r : FilterRequest} {c d : Config} (same : d = r.override c)
    (table : env.readTable r.file = env'.readTable r.file) :
    (env.runFilter r c).SaysSame (env'.runFilter r.bare d) := by
  have file : r.bare.file = r.file := rfl
  rw [same, runFilter, runFilter, r.bare_override, file, table]
  cases env'.readTable r.file with
  | error e => exact ⟨rfl, rfl, rfl⟩
  | ok contents =>
    simp only [filterTable]
    by_cases json : r.json = true
    · have json' : r.bare.json = true := json
      rw [if_pos json, if_pos json']
      exact ⟨rfl, rfl, rfl⟩
    · have json' : ¬ r.bare.json = true := json
      rw [if_neg json, if_neg json']
      exact ⟨rfl, rfl, rfl⟩

end Environment

/-- **What a request names itself could stand at the end of the settings file.** A settings
file is accepted, and goes on behind a line feed with one line for each setting that the
request names: its mode, its number, its columns with commas between them, and its tag, in
that order. The tag is a value, blanks may follow the commas, and the last line may be ended
or not. Then the longer file says what the request makes of the shorter one. So a run
of the filter says the same with the options and the shorter file as without the options and
with the longer file, wherever the files are, as long as the same table is read. -/
theorem FilterRequest.overrides_as_lines {t : Text} {c : Config} (accepted : Config.read t = .ok c)
    {r : FilterRequest} (tag : ∀ x, r.ignoreTag = some x → x.IsValue) {gap closing : Text}
    (blank : ∀ b ∈ gap, Text.isBlank b = true ∧ b ≠ '\n')
    (ended : closing = [] ∨ closing = ['\n']) :
    let longer := t ++ '\n' :: (Text.join ['\n'] (r.settings.map (Setting.lineWith gap)) ++ closing)
    Config.read longer = .ok (r.override c) ∧
      ∀ (env env' : Environment) (named named' : Option Text),
        env.store.readText (env.configPath named) = .ok t →
        env'.store.readText (env'.configPath named') = .ok longer →
        env.readTable r.file = env'.readTable r.file →
          (env.run { config := named, command := .filter r }).SaysSame
            (env'.run { config := named', command := .filter r.bare }) := by
  intro longer
  have lines : ∀ s ∈ r.settings,
      '\n' ∉ s.lineWith gap ∧ Line.read (s.lineWith gap) = .setting s := by
    intro s hs
    obtain ⟨tidy, no_item⟩ := r.tidy_of_mem_settings tag hs
    exact ⟨tidy.lineFeed_not_mem_lineWith blank,
      Line.read_lineWith blank tidy fun i e => absurd e (no_item i)⟩
  have longer_read : Config.read longer = .ok (r.override c) := by
    rw [← r.foldl_settings c]
    exact read_append_settings accepted lines ended
  refine ⟨longer_read, fun env env' named named' there there' table => ?_⟩
  simp only [Environment.run, Environment.loadConfig_eq_ok there accepted,
    Environment.loadConfig_eq_ok there' longer_read]
  exact Environment.saysSame_runFilter rfl table

/-- A file whose last line is not ended, with columns and a tag of its own. All of the options
are given, one column is in the file already, and a table is read from the standard input. -/
theorem FilterRequest.overrides_as_lines_unended :
    let t := "min_chars = 2\r\nignore_columns = 1, 1\nignore_tag = old".toList
    let c : Config :=
      { minChars := 2, ignoreColumns := ColumnSet.empty.insert 1, ignoreTag := some "old".toList }
    let r : FilterRequest :=
      { query := "+b".toList, format := { delimiter := ',' }, mode := some .findAny,
        minChars := some 0, ignoreColumns := [3, 1], ignoreTag := some "no match".toList }
    let longer := t ++ "\nmatch_mode = find_any\nmin_chars = 0".toList ++
      "\nignore_columns = 3,1\nignore_tag = no match".toList
    let store : FileStore :=
      { entries := [([['s']], .file (String.ofList t).toUTF8),
          ([['l']], .file (String.ofList longer).toUTF8)],
        workingDirectory := [] }
    let env : Environment := { home := [], input := "b,a\n".toUTF8, store }
    Config.read t = .ok c ∧ Text.IsValue "no match".toList ∧
      Config.read longer = .ok (r.override c) ∧
      (env.run { config := some ['s'], command := .filter r }).SaysSame
        (env.run { config := some ['l'], command := .filter r.bare }) := by
  intro t c r longer store env
  have accepted : Config.read t = .ok c := by rfl
  have tag : Text.IsValue "no match".toList := ⟨by decide, by decide, by decide⟩
  have given : ∀ x, r.ignoreTag = some x → x.IsValue := by
    intro x hx
    cases hx
    exact tag
  have same_text : t ++ '\n' :: (Text.join ['\n'] (r.settings.map (Setting.lineWith [])) ++ []) =
      longer := by decide +kernel
  obtain ⟨longer_read, runs⟩ := FilterRequest.overrides_as_lines accepted given
    (List.forall_mem_nil _) (.inl rfl)
  rw [same_text] at longer_read runs
  -- The files are read back whatever is in them.
  have stored (a b : Text) :
      let s : FileStore :=
        { entries := [([['s']], .file (String.ofList a).toUTF8),
            ([['l']], .file (String.ofList b).toUTF8)],
          workingDirectory := [] }
      s.readText ['s'] = .ok a ∧ s.readText ['l'] = .ok b :=
    ⟨FileStore.decode_toUTF8 a, FileStore.decode_toUTF8 b⟩
  obtain ⟨there, there'⟩ := stored t longer
  exact ⟨accepted, tag, longer_read, runs env env (some ['s']) (some ['l']) there there' rfl⟩

end CommandLine

end GridFilter
