/-
The validator and those who go by the settings.

Validating does not load the settings. It finds the file, looks whether it is there and reads
it, each in a step of its own, and a file that is not there it judges by whether it was named.
The other commands load the settings. They never ask whether a file that is named is there, but
fail to read it.

So the two are opened side by side once, and never again. There are four things to find, and
each has an answer of both: what loading comes to, and the exit code and the report that
validating ends with (`Environment.Judged`, `judged_loadConfig`). Everything else is a look
at the four: who succeeds, who reports valid settings, who is stopped before its work, and
whether the mode and the number of quick items in a report are those that the other commands
get (`validateConfig_agrees`).
-/
import GridFilter.CommandLine.Run
import GridFilter.Proofs.Text.Lines

set_option autoImplicit false

namespace GridFilter

/-- Numbers are written on one line. -/
theorem Text.lineFeed_not_mem_ofNat (n : Nat) : '\n' ∉ Text.ofNat n := fun feed =>
  absurd (Nat.isDigit_of_mem_toDigits (by decide) (by decide) feed) (by decide)

/-- And so are the names of modes. -/
theorem MatchMode.lineFeed_not_mem_name (m : MatchMode) : '\n' ∉ m.name.toList := by
  cases m <;> decide

namespace CommandLine

variable {env : Environment} {named : Option Text} {loaded : Except Failure Config}
  {exitCode : Nat} {report : Text}

/-! ## What the validator says -/

namespace Environment

/-- The validator prints the path and behind it this report. -/
def Reports (env : Environment) (named : Option Text) (report : Text) : Prop :=
  (env.run { config := named, command := .validateConfig }).output =
    "Config file: ".toList ++ env.configPath named ++ '\n' :: report

/-- The report ends in the line that calls the settings valid. -/
def ReportsValid (env : Environment) (named : Option Text) : Prop :=
  ∃ findings, env.Reports named (findings ++ "Result: Valid\n".toList)

/-- The report begins with lines that name a mode and a number of quick items. -/
def ReportsCounts (env : Environment) (named : Option Text) (mode count : Text) : Prop :=
  '\n' ∉ mode ∧ '\n' ∉ count ∧ ∃ rest, env.Reports named
    ("Match mode: ".toList ++ mode ++ "\nQuick list entries: ".toList ++ count ++ '\n' :: rest)

/-- Behind the path there is one report. -/
theorem Reports.iff_eq (h : env.Reports named report) {other : Text} :
    env.Reports named other ↔ other = report := by
  rw [Reports, h, List.append_cancel_left_eq, List.cons.injEq, and_iff_right rfl, eq_comm]

/-! ## The two ways to the settings -/

/-- What loading the settings comes to, beside the exit code and the report of the validator.
There are four cases. -/
inductive Judged (env : Environment) (named : Option Text) :
    Except Failure Config → Nat → Text → Prop where
  /-- No file is named, and the default one is not there. -/
  | defaults (unnamed : named = none)
      (gone : env.store.hasPath (env.configPath named) = false) :
      env.Judged named (.ok {}) 0
        "Status: File does not exist (using defaults)\nResult: Valid\n".toList
  /-- The file that is named is not there. -/
  | missing (given : named.isSome = true)
      (gone : env.store.hasPath (env.configPath named) = false) (e : LoadFault) :
      env.Judged named (.error (e.failure (env.configPath named))) 1 []
  | accepted (there : env.store.hasPath (env.configPath named) = true) (c : Config) :
      env.Judged named (.ok c) 0
        ("Match mode: ".toList ++ c.matchMode.name.toList ++ "\nQuick list entries: ".toList ++
          Text.ofNat c.quickList.length ++ '\n' :: "Result: Valid\n".toList)
  /-- The file is a directory or no text, or there is a mistake in it. -/
  | refused (there : env.store.hasPath (env.configPath named) = true) (e : LoadFault) :
      env.Judged named (.error (e.failure (env.configPath named))) 1
        ("Error: ".toList ++ e.message ++ "\nResult: Invalid\n".toList)

/-- **Loading and validating come to the same of the four cases.** -/
theorem judged_loadConfig (env : Environment) (named : Option Text) :
    ∃ report, env.Reports named report ∧ env.Judged named (env.loadConfig named)
      (env.run { config := named, command := .validateConfig }).exitCode report := by
  -- In each case it is left to see what the two do.
  have judged_of {loaded : Except Failure Config} {exitCode : Nat} {report : Text}
      (judged : env.Judged named loaded exitCode report) (loads : env.loadConfig named = loaded)
      (exits : (env.runValidateConfig named).exitCode = exitCode)
      (prints : env.Reports named report) :
      ∃ report, env.Reports named report ∧ env.Judged named (env.loadConfig named)
        (env.runValidateConfig named).exitCode report := by
    subst loads exits
    exact ⟨report, prints, judged⟩
  cases found : env.store.hasPath (env.configPath named) with
  | true =>
    have loads : env.loadConfig named =
        (readConfig env.store (env.configPath named)).mapError (·.failure (env.configPath named)) :=
      if_neg (by simp [found])
    cases read : readConfig env.store (env.configPath named) with
    | ok c =>
      rw [read] at loads
      exact judged_of (.accepted found c) loads (by simp [runValidateConfig, found, read])
        (by simp [Reports, run, runValidateConfig, found, read])
    | error e =>
      rw [read] at loads
      exact judged_of (.refused found e) loads (by simp [runValidateConfig, found, read, fail])
        (by simp [Reports, run, runValidateConfig, found, read, fail])
  | false =>
    cases named with
    | none =>
      exact judged_of (.defaults rfl found) (if_pos (by simp [found]))
        (by simp [runValidateConfig, found]) (by simp [Reports, run, runValidateConfig, found])
    | some path =>
      obtain ⟨e, nothing⟩ := FileStore.readText_eq_error found
      have loads : env.loadConfig (some path) =
          .error ((LoadFault.file e).failure (env.configPath (some path))) := by
        rw [loadConfig, if_neg (by simp), readConfig, nothing]
        rfl
      exact judged_of (.missing rfl found (.file e)) loads (by simp [runValidateConfig, found, fail])
        (by simp [Reports, run, runValidateConfig, found, fail])

/-! ## A look at the four cases -/

namespace Judged

/-- The exit code tells whether the settings can be used. -/
theorem exitCode_eq_zero_iff (h : env.Judged named loaded exitCode report) :
    exitCode = 0 ↔ ∃ c, loaded = .ok c := by
  cases h <;> simp

/-- So does the last line of the report. -/
theorem valid_iff (h : env.Judged named loaded exitCode report) :
    "Result: Valid\n".toList <:+ report ↔ ∃ c, loaded = .ok c := by
  cases h with
  | defaults _ gone => exact iff_of_true (by decide) ⟨_, rfl⟩
  | missing _ gone e => exact iff_of_false (by decide) (by simp)
  | accepted there c =>
    refine iff_of_true ?_ ⟨_, rfl⟩
    rw [← List.singleton_append, ← List.append_assoc]
    exact List.suffix_append _ _
  | refused there e =>
    -- The report ends in the other of the two lines, which is the longer one.
    refine iff_of_false (fun valid => ?_) (by simp)
    have ending := List.suffix_of_suffix_length_le valid
      (List.suffix_append ("Error: ".toList ++ e.message) "\nResult: Invalid\n".toList) (by decide)
    exact absurd ending (by decide)

/-- A mode and a number are reported of a file that is there and accepted, and they are those
that are loaded. -/
theorem counts_iff (h : env.Judged named loaded exitCode report) {mode count : Text}
    (mode_line : '\n' ∉ mode) (count_line : '\n' ∉ count) :
    (∃ rest, "Match mode: ".toList ++ mode ++ "\nQuick list entries: ".toList ++ count ++
        '\n' :: rest = report) ↔
      env.store.hasPath (env.configPath named) = true ∧ ∃ c, loaded = .ok c ∧
        mode = c.matchMode.name.toList ∧ count = Text.ofNat c.quickList.length := by
  cases h with
  | defaults _ gone => simp [gone]
  | missing _ gone e => simp [gone]
  | refused there e => simp
  | accepted there c =>
    have lines (mode count rest : Text) :
        "Match mode: ".toList ++ mode ++ "\nQuick list entries: ".toList ++ count ++ '\n' :: rest =
          "Match mode: ".toList ++
            (mode ++ '\n' :: ("Quick list entries: ".toList ++ (count ++ '\n' :: rest))) := by
      simp
    -- What is reported stands in front of the first line feed, and then of the next one.
    simp only [lines, there, true_and, Except.ok.injEq, exists_eq_left', List.append_cancel_left_eq,
      Text.append_cons_inj mode_line c.matchMode.lineFeed_not_mem_name,
      Text.append_cons_inj count_line (Text.lineFeed_not_mem_ofNat _), exists_and_left,
      exists_eq, and_true]

end Judged

end Environment

/-! ## Who is stopped by the settings -/

/-- A run ends before its work because the settings in a file cannot be used. -/
structure Outcome.RefusesSettings (o : Outcome) (path : Text) : Prop where
  exitCode : o.exitCode = 1
  output : o.output = []
  errors : "Error: ".toList ++ ("Failed to load config from ".toList ++ path ++ ": ".toList) <+:
    o.errors

/-- What keeps settings from being used is told with the path. -/
theorem LoadFault.prefix_message_failure (e : LoadFault) (path : Text) :
    "Failed to load config from ".toList ++ path ++ ": ".toList <+: (e.failure path).message := by
  cases e with
  | file e =>
    have colon : ": IO error: ".toList = ": ".toList ++ "IO error: ".toList := rfl
    refine ⟨"IO error: ".toList ++ e.message ++ ": ".toList ++ e.message, ?_⟩
    change _ = "Failed to load config from ".toList ++ path ++ ": IO error: ".toList ++ e.message ++
      ": ".toList ++ e.message
    simp only [colon, List.append_assoc]
  | contents e => exact ⟨e.message, rfl⟩

namespace Environment

theorem errors_fail (e : Failure) :
    (env.fail e).errors = "Error: ".toList ++ (e.message ++ ['\n']) := List.append_assoc _ _ _

/-- Failing to use a file refuses its settings. -/
theorem refusesSettings_fail (e : LoadFault) (path : Text) :
    (env.fail (e.failure path)).RefusesSettings path where
  exitCode := rfl
  output := rfl
  errors := by
    rw [errors_fail, List.prefix_append_right_inj]
    exact (e.prefix_message_failure path).trans (List.prefix_append _ _)

/-- A failure whose message has another letter somewhere is no refusal. -/
theorem not_refusesSettings_fail {e : Failure} {i : Nat} {a b : Char}
    (here : "Failed to load config from ".toList[i]? = some a) (there : e.message[i]? = some b)
    (ne : a ≠ b) (path : Text) : ¬ (env.fail e).RefusesSettings path := by
  intro refused
  have start := refused.errors
  rw [errors_fail, List.prefix_append_right_inj] at start
  obtain ⟨rest, message_eq⟩ := start
  -- Both stand at the front of what was printed, so their letters at the place are the same.
  have same := congrArg (·[i]?) message_eq
  simp only [List.append_assoc] at same
  rw [List.getElem?_append_left (List.getElem?_eq_some_iff.1 here).1,
    List.getElem?_append_left (List.getElem?_eq_some_iff.1 there).1, here, there] at same
  exact ne (Option.some.inj same)

/-- A table that was read is filtered without a failure. -/
theorem exitCode_filterTable (store : FileStore) (r : FilterRequest) (c : Config)
    (contents : Text) : (filterTable store r c contents).exitCode = 0 := by
  rw [filterTable]
  cases r.json <;> rfl

/-- What keeps a table from being read is told as a failure to read. -/
theorem message_of_readTable {file : Option Text} {e : Failure}
    (unread : env.readTable file = .error e) : e.message[10]? = some 'r' := by
  have told {f : FileFault → Failure} {x : Except FileFault Text}
      (h : x.mapError f = .error e) : ∃ fault, f fault = e := by
    cases x with
    | ok t => cases h
    | error fault => exact ⟨fault, Except.error.inj h⟩
  -- A file and the standard input have messages of their own.
  unfold readTable at unread
  split at unread
  · obtain ⟨fault, rfl⟩ := told unread
    rfl
  · obtain ⟨fault, rfl⟩ := told unread
    rfl

/-- A filter run with settings does not refuse them. -/
theorem not_refusesSettings_runFilter (r : FilterRequest) (c : Config) (path : Text) :
    ¬ (env.runFilter r c).RefusesSettings path := by
  rw [runFilter]
  cases table : env.readTable r.file with
  | ok contents =>
    intro refused
    exact absurd ((exitCode_filterTable _ _ _ _).symm.trans refused.exitCode) (by decide)
  | error e => exact not_refusesSettings_fail rfl (message_of_readTable table) (by decide) path

/-- Nor does a run that composes. -/
theorem not_refusesSettings_runCompose (c : Config) (current label : Text) (mods : PickModifiers)
    (path : Text) : ¬ (env.runCompose c current label mods).RefusesSettings path := by
  rw [runCompose]
  split
  · intro refused
    cases refused.exitCode
  · exact not_refusesSettings_fail (i := 0) rfl rfl (by decide) path

/-- A command that goes by the settings, and refuses none that it gets, is stopped by those
that cannot be used and by nothing else. -/
theorem Judged.refusesSettings_iff (h : env.Judged named loaded exitCode report)
    {work : Config → Outcome} (works : ∀ c, ¬ (work c).RefusesSettings (env.configPath named)) :
    (match loaded with
      | .error e => env.fail e
      | .ok c => work c).RefusesSettings (env.configPath named) ↔ ¬ ∃ c, loaded = .ok c := by
  cases h with
  | defaults _ gone => exact iff_of_false (works {}) (by simp)
  | missing _ gone e => exact iff_of_true (refusesSettings_fail e _) (by simp)
  | accepted there c => exact iff_of_false (works c) (by simp)
  | refused there e => exact iff_of_true (refusesSettings_fail e _) (by simp)

/-- Showing the settings succeeds if there are any. -/
theorem exitCode_showConfig (env : Environment) (named : Option Text) :
    (env.runShowConfig named).exitCode = 0 ↔ ∃ c, env.loadConfig named = .ok c := by
  rw [runShowConfig]
  cases env.loadConfig named with
  | ok c => exact iff_of_true rfl ⟨c, rfl⟩
  | error e => exact iff_of_false (Nat.succ_ne_zero 0) (by simp)

/-- **The validator agrees with those who go by the settings**, whatever is in the store and
whether or not a file is named. It succeeds if and only if the settings can be loaded, and so
does the command that shows them; and it calls them valid in just these cases, and in all
others a filter run and a run that composes end before their work. It reports a mode and a
number of quick items if and only if there is a file with settings that can be loaded, and they
are the mode and the number of these settings, as they are written and as they are read. -/
theorem validateConfig_agrees (env : Environment) (named : Option Text) :
    let run (command : Command) := env.run { config := named, command }
    let path := env.configPath named
    let usable := ∃ c, env.loadConfig named = .ok c
    ((run .validateConfig).exitCode = 0 ↔ usable) ∧ ((run .showConfig).exitCode = 0 ↔ usable) ∧
      (env.ReportsValid named ↔ usable) ∧
      (∀ r, (run (.filter r)).RefusesSettings path ↔ ¬ env.ReportsValid named) ∧
      (∀ current label mods,
        (run (.compose current label mods)).RefusesSettings path ↔ ¬ env.ReportsValid named) ∧
      ∀ mode count, env.ReportsCounts named mode count ↔
        env.store.hasPath path = true ∧ ∃ c, env.loadConfig named = .ok c ∧
          mode = c.matchMode.name.toList ∧ count = Text.ofNat c.quickList.length ∧
          MatchMode.read mode = .ok c.matchMode ∧
          Text.readNat? count = some c.quickList.length := by
  intro run path usable
  obtain ⟨report, reports, judged⟩ := judged_loadConfig env named
  have valid : env.ReportsValid named ↔ usable :=
    (exists_congr fun findings => reports.iff_eq).trans judged.valid_iff
  refine ⟨judged.exitCode_eq_zero_iff, exitCode_showConfig env named, valid, fun r => ?_,
    fun current label mods => ?_, fun mode count => ?_⟩
  · rw [valid]
    exact judged.refusesSettings_iff (not_refusesSettings_runFilter r · path)
  · rw [valid]
    exact judged.refusesSettings_iff (not_refusesSettings_runCompose · current label mods path)
  · constructor
    · rintro ⟨mode_line, count_line, rest, printed⟩
      obtain ⟨there, c, loads, rfl, rfl⟩ :=
        (judged.counts_iff mode_line count_line).1 ⟨rest, reports.iff_eq.1 printed⟩
      exact ⟨there, c, loads, rfl, rfl, MatchMode.read_name _, Text.readNat?_ofNat _⟩
    · rintro ⟨there, c, loads, rfl, rfl, -⟩
      have mode_line := c.matchMode.lineFeed_not_mem_name
      have count_line := Text.lineFeed_not_mem_ofNat c.quickList.length
      obtain ⟨rest, printed⟩ :=
        (judged.counts_iff mode_line count_line).2 ⟨there, c, loads, rfl, rfl⟩
      exact ⟨mode_line, count_line, rest, reports.iff_eq.2 printed⟩

end Environment

end CommandLine

end GridFilter
