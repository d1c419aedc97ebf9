/-
Carrying out a command.

A run is a function of the arguments, the standard input and the files that are
there, and comes to an exit code, two texts and the files that are there then.
Only one command ever changes files, and only if its path leads to nothing yet.

What was printed before something failed stays printed.
-/
import GridFilter.CommandLine.Invocation
import GridFilter.FileStore
import GridFilter.Report

set_option autoImplicit false

namespace GridFilter.CommandLine

/-! ## What a run starts from and comes to -/

/-- What a run finds. -/
structure Environment where
  home : Text
  input : ByteArray
  store : FileStore

/-- What a run comes to. -/
structure Outcome where
  exitCode : Nat := 0
  output : Text := []
  errors : Text := []
  store : FileStore

/-- What can fail. -/
inductive Failure where
  /-- The settings file cannot be read. -/
  | configFile (path : Text) (e : FileFault)
  /-- The settings file can be read and holds a mistake. -/
  | configContents (path : Text) (e : Config.Fault)
  | tableFile (path : Text) (e : FileFault)
  | standardInput (e : FileFault)
  /-- No quick item has the label; `known` are the labels there are. -/
  | unknownItem (label : Text) (known : List Text)
  | directory (path : Text) (e : FileFault)
  | writing (path : Text) (e : FileFault)
  | missingConfig (path : Text)
  | invalidConfig

namespace Failure

/-- The message for a failure: what was attempted, and after a colon why it did
not work. -/
def message : Failure → Text
  | configFile path e =>
    "Failed to load config from ".toList ++ path ++ ": IO error: ".toList ++ e.message ++
      ": ".toList ++ e.message
  | configContents path e =>
    "Failed to load config from ".toList ++ path ++ ": ".toList ++ e.message
  | tableFile path e => "Failed to read ".toList ++ path ++ ": ".toList ++ e.message
  | standardInput e => "Failed to read stdin: ".toList ++ e.message
  | unknownItem label known =>
    "Unknown quick list entry `".toList ++ label ++
      (if known.isEmpty then "`; no `quick` entries are configured".toList
       else "`; expected one of: ".toList ++ Text.join ", ".toList known)
  | directory path e => "Failed to create ".toList ++ path ++ ": ".toList ++ e.message
  | writing path e => "Failed to write ".toList ++ path ++ ": ".toList ++ e.message
  | missingConfig path => path ++ " does not exist".toList
  | invalidConfig => "invalid configuration".toList

end Failure

/-- What a run comes to when something fails after `output` was printed. -/
def Environment.fail (env : Environment) (e : Failure) (output : Text := []) : Outcome where
  exitCode := 1
  output := output
  errors := "Error: ".toList ++ e.message ++ ['\n']
  store := env.store

/-! ## The settings file -/

/-- Where the settings are kept unless a file is named. -/
def defaultConfigPath (home : Text) : Text :=
  FileStore.joinPath home ".config/filtertable/config.txt".toList

/-- The path of the settings file. -/
def Environment.configPath (env : Environment) (named : Option Text) : Text :=
  named.getD (defaultConfigPath env.home)

/-- What can keep a settings file from being used. -/
inductive LoadFault where
  | file (e : FileFault)
  | contents (e : Config.Fault)

/-- The message for a settings file that cannot be used. -/
def LoadFault.message : LoadFault → Text
  | file e => "IO error: ".toList ++ e.message
  | contents e => e.message

/-- The failure to use a settings file. -/
def LoadFault.failure (path : Text) : LoadFault → Failure
  | file e => .configFile path e
  | contents e => .configContents path e

/-- Reads the settings from what reading a file came to. -/
def configOfText (contents : Except FileFault Text) : Except LoadFault Config :=
  match contents with
  | .error e => .error (.file e)
  | .ok text => (Config.read text).mapError .contents

/-- Reads a settings file. -/
def readConfig (store : FileStore) (path : Text) : Except LoadFault Config :=
  configOfText (store.readText path)

/-- The settings of a run. Without a named file, the default file need not be
there. -/
def Environment.loadConfig (env : Environment) (named : Option Text) : Except Failure Config :=
  let path := env.configPath named
  if named.isNone && !env.store.hasPath path then .ok {}
  else (readConfig env.store path).mapError (·.failure path)

/-! ## Commands -/

/-- The table to filter. -/
def Environment.readTable (env : Environment) (file : Option Text) : Except Failure Text :=
  match file with
  | some path => (env.store.readText path).mapError (.tableFile path)
  | none => (FileStore.decode env.input).mapError .standardInput

/-- What the filter tells about its work. -/
def filterNote (eligible : Bool) (s : Summary) : Text :=
  if !eligible then
    Text.ofNat s.totalRows ++ " rows (below min_rows); filter not applied\n".toList
  else if s.active then
    Text.ofNat s.visibleRows ++ " of ".toList ++ Text.ofNat s.totalRows ++
      " rows visible, ".toList ++ Text.ofNat s.highlightedCells ++ " cells matched\n".toList
  else "No filter active (".toList ++ Text.ofNat s.totalRows ++ " rows)\n".toList

/-- Filters a table. A table with too few rows is shown as if there were no query. -/
def filterTable (store : FileStore) (r : FilterRequest) (config : Config) (contents : Text) :
    Outcome :=
  let table := Table.read contents r.format
  let eligible := config.isEligible table.grid.rows.length
  let done := Session.setQuery { config } table.grid (if eligible then r.query else [])
  if r.json then
    { output := (Report.ofSession done.session done.grid).toJson.write 0 ++ ['\n'], store }
  else
    { output := { table with grid := done.grid }.render r.format.delimiter
      errors := filterNote eligible done.session.summary
      store }

/-- The filter command. -/
def Environment.runFilter (env : Environment) (r : FilterRequest) (config : Config) : Outcome :=
  match env.readTable r.file with
  | .error e => env.fail e
  | .ok contents => filterTable env.store r (r.override config) contents

/-- A text with blanks in front, up to a width. -/
def padLeft (width : Nat) (t : Text) : Text := List.replicate (width - t.length) ' ' ++ t

/-- A text with blanks behind it, up to a width. -/
def padRight (width : Nat) (t : Text) : Text := t ++ List.replicate (width - t.length) ' '

/-- The terms of a query, one on a line, with their numbers. -/
def listTerms (query : Text) : Text :=
  match Query.terms query with
  | [] => "(no terms)\n".toList
  | terms => (terms.mapIdx fun i t =>
      padLeft 3 (Text.ofNat (i + 1)) ++ [' ', ' '] ++ padRight 10 t.sign.name.toList ++
        ' ' :: (t.fragment ++ ['\n'])).flatten

/-- The compose command. -/
def Environment.runCompose (env : Environment) (config : Config) (current label : Text)
    (mods : PickModifiers) : Outcome :=
  match config.quickItem? label with
  | some i => { output := composeQuery current i.phrase mods ++ ['\n'], store := env.store }
  | none => env.fail (.unknownItem label (config.quickList.map (·.label)))

/-- Writes the sample settings, in a directory that is made if need be. Where the path
leads is found out when the directory is there. Directories that were made stay if
something fails later. -/
def Environment.createConfig (env : Environment) (path : Text) : Outcome :=
  let parent := (FileStore.parentPath? path).getD []
  match env.store.makeDirectories (parent.length + 1) parent with
  | (store, some e) => { env with store }.fail (.directory parent e)
  | (store, none) =>
    match store.writeText path Config.sample with
    | .error e => { env with store }.fail (.writing path e)
    | .ok store => { output := "Created ".toList ++ path ++ ['\n'], store }

/-- The init-config command. -/
def Environment.runInitConfig (env : Environment) (named : Option Text) : Outcome :=
  let path := env.configPath named
  if env.store.hasPath path then
    { output := path ++ " already exists\n".toList, store := env.store }
  else env.createConfig path

/-- The show-config command. -/
def Environment.runShowConfig (env : Environment) (named : Option Text) : Outcome :=
  let path := env.configPath named
  let head := "# Config file: ".toList ++ path ++
    (if env.store.hasPath path then "\n\n".toList
     else " (not created yet)\n# Using default configuration\n\n".toList)
  match env.loadConfig named with
  | .error e => env.fail e head
  | .ok config => { output := head ++ config.write, store := env.store }

/-- The validate-config command. -/
def Environment.runValidateConfig (env : Environment) (named : Option Text) : Outcome :=
  let path := env.configPath named
  let head := "Config file: ".toList ++ path ++ ['\n']
  if !env.store.hasPath path then
    if named.isSome then env.fail (.missingConfig path) head
    else
      { output := head ++
          "Status: File does not exist (using defaults)\nResult: Valid\n".toList
        store := env.store }
  else match readConfig env.store path with
    | .ok config =>
      { output := head ++ "Match mode: ".toList ++ config.matchMode.name.toList ++
          "\nQuick list entries: ".toList ++ Text.ofNat config.quickList.length ++
          "\nResult: Valid\n".toList
        store := env.store }
    | .error e =>
      env.fail .invalidConfig
        (head ++ "Error: ".toList ++ e.message ++ "\nResult: Invalid\n".toList)

/-- Carries out an invocation. -/
def Environment.run (env : Environment) (i : Invocation) : Outcome :=
  let withConfig (run : Config → Outcome) : Outcome :=
    match env.loadConfig i.config with
    | .error e => env.fail e
    | .ok config => run config
  match i.command with
  | .filter r => withConfig (env.runFilter r)
  | .parse query => { output := listTerms query, store := env.store }
  | .compose current label mods => withConfig fun config => env.runCompose config current label mods
  | .initConfig => env.runInitConfig i.config
  | .showConfig => env.runShowConfig i.config
  | .validateConfig => env.runValidateConfig i.config
  | .help => { output := helpText, store := env.store }

/-- Carries out the program on its arguments. -/
def Environment.runArguments (env : Environment) (args : List Text) : Outcome :=
  match readArguments args with
  | .ok i => env.run i
  | .error (.display what) => { output := what, store := env.store }
  | .error .misuse =>
    { exitCode := 2
      errors := "Error: the arguments are not understood; try the help command\n".toList
      store := env.store }

end GridFilter.CommandLine
