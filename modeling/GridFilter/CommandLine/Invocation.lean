/-
The commands of the program and their arguments.

The settings file may be named before the command or behind it; the later place
wins. Everything else belongs to one command.
-/
import GridFilter.CommandLine.Scanner
import GridFilter.Config
import GridFilter.Table

set_option autoImplicit false

namespace GridFilter.CommandLine

/-! ## Commands -/

/-- What the filter command is asked to do. -/
structure FilterRequest where
  query : Text
  /-- The file with the table; without one the standard input is read. -/
  file : Option Text := none
  format : TableFormat
  mode : Option MatchMode := none
  minChars : Option UInt64 := none
  ignoreColumns : List UInt64 := []
  ignoreTag : Option Text := none
  /-- Decisions are written as JSON instead of the table. -/
  json : Bool := false

/-- The settings under which a request is carried out: what it names itself goes
before the settings file, and its columns are ignored besides those of the file. -/
def FilterRequest.override (r : FilterRequest) (c : Config) : Config :=
  { c with
    matchMode := r.mode.getD c.matchMode
    minChars := r.minChars.getD c.minChars
    ignoreColumns := c.ignoreColumns.insertAll r.ignoreColumns
    ignoreTag := r.ignoreTag <|> c.ignoreTag }

/-- A command with its arguments. -/
inductive Command where
  | filter (r : FilterRequest)
  | parse (query : Text)
  | compose (current label : Text) (mods : PickModifiers)
  | initConfig
  | showConfig
  | validateConfig
  | help

/-- What the program is asked to do. -/
structure Invocation where
  /-- The settings file, if it is named. -/
  config : Option Text := none
  command : Command

/-! ## Texts -/

/-- The name and the version of the program. -/
def versionText : Text := "filtertable 0.1.0\n".toList

/-- The commands, and how queries are written. -/
def helpText : Text :=
  ("Available commands:\n" ++
   "\n" ++
   "  filter <QUERY> [FILE]      Filter a table and print the visible rows\n" ++
   "  parse <QUERY>              Show how a query is split into terms\n" ++
   "  compose <CURRENT> <LABEL>  Add a quick list phrase to a query\n" ++
   "  init-config                Write the default config file\n" ++
   "  show-config                Display current configuration\n" ++
   "  validate-config            Validate configuration file\n" ++
   "  help                       Show this help message\n" ++
   "\n" ++
   "Query syntax:\n" ++
   "\n" ++
   "  term     keep only visible rows that match\n" ++
   "  +term    show every row that matches (the first term defaults to this)\n" ++
   "  -term    hide visible rows that match\n" ++
   "  /re/i    match a regular expression with flags\n").toList

/-! ## Arguments -/

/-- Whether a text is one character. -/
def isSingle (t : Text) : Bool := t.length == 1

/-- The option that asks for help. -/
def helpOption : OptionSpec :=
  { name := "help", letter := some 'h', kind := .display helpText }

/-- The option that names the settings file. A path is never empty. -/
def configOption : OptionSpec :=
  { name := "config", kind := .value fun v => !v.isEmpty }

/-- What may stand before a command. -/
def programSpec : ArgumentSpec where
  options := [configOption, helpOption,
    { name := "version", letter := some 'V', kind := .display versionText }]

/-- The description of a command that takes the given options besides those that
all commands take. -/
def commandSpec (options : List OptionSpec) (operands : List OperandSpec) : ArgumentSpec where
  options := options ++ [configOption, helpOption]
  operands := operands

/-- The arguments of the filter command. -/
def filterSpec : ArgumentSpec := commandSpec
  [{ name := "delimiter", kind := .value isSingle },
   { name := "header", kind := .flag },
   { name := "tagged", kind := .flag },
   { name := "mode", kind := .value fun v => (MatchMode.read v).toOption.isSome },
   { name := "min-chars", kind := .value fun v => v.readWord?.isSome },
   { name := "ignore-column", kind := .values fun v => v.readWord?.isSome },
   { name := "ignore-tag", kind := .value fun _ => true },
   { name := "json", kind := .flag }]
  [{ mayBeginWithHyphen := true }, { accepts := fun v => !v.isEmpty, required := false }]

/-- The request that the arguments of the filter command make. -/
def filterRequest (s : Scan) (query : Text) (file : Option Text) : FilterRequest where
  query := query
  file := file
  format :=
    { delimiter := ((s.valueOf? "delimiter").bind List.head?).getD '\t'
      header := s.has "header"
      tagged := s.has "tagged" }
  mode := (s.valueOf? "mode").bind fun v => (MatchMode.read v).toOption
  minChars := (s.valueOf? "min-chars").bind Text.readWord?
  ignoreColumns := (s.valuesOf "ignore-column").filterMap Text.readWord?
  ignoreTag := s.valueOf? "ignore-tag"
  json := s.has "json"

/-- A command by its name: what it accepts, and what its arguments come to. -/
structure CommandForm where
  name : String
  spec : ArgumentSpec
  command : Scan → Option Command

/-- The commands of the program. -/
def commandForms : List CommandForm :=
  [{ name := "filter", spec := filterSpec,
     command := fun s => match s.operands.reverse with
       | [query] => some (.filter (filterRequest s query none))
       | [query, file] => some (.filter (filterRequest s query (some file)))
       | _ => none },
   { name := "parse", spec := commandSpec [] [{ mayBeginWithHyphen := true }],
     command := fun s => s.operands.head?.map .parse },
   { name := "compose",
     spec := commandSpec [{ name := "add", kind := .flag }, { name := "subtract", kind := .flag }]
       [{ mayBeginWithHyphen := true }, {}],
     command := fun s => match s.operands.reverse with
       | [current, label] =>
         some (.compose current label { add := s.has "add", subtract := s.has "subtract" })
       | _ => none },
   { name := "init-config", spec := commandSpec [] [], command := fun _ => some .initConfig },
   { name := "show-config", spec := commandSpec [] [], command := fun _ => some .showConfig },
   { name := "validate-config", spec := commandSpec [] [],
     command := fun _ => some .validateConfig },
   { name := "help", spec := commandSpec [] [], command := fun _ => some .help }]

/-- Reads the arguments of a command. -/
def readCommand (form : CommandForm) (config : Option Text) (args : List Text) :
    Except Interruption Invocation := do
  let s ← Scan.readAll form.spec args
  match form.command s with
  | some command => return { config := s.valueOf? "config" <|> config, command }
  | none => throw .misuse

/-- Reads arguments up to the name of a command, and then those of the command.
No command at all is a call for help. -/
def readProgram (s : Scan) : List Text → Except Interruption Invocation
  | [] => do
    let s ← s.finish programSpec
    return { config := s.valueOf? "config", command := .help }
  | arg :: rest => do
    -- The name of a command is a value where an option waits for one.
    let form := if s.ended || s.waiting.isSome then none
      else commandForms.find? (·.name.toList == arg)
    match form with
    | some form => readCommand form (s.valueOf? "config") rest
    | none => readProgram (← s.readArgument programSpec arg) rest

/-- Reads the arguments of the program. -/
def readArguments (args : List Text) : Except Interruption Invocation := readProgram {} args

end GridFilter.CommandLine
