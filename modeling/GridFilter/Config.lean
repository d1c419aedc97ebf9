/-
The settings of a filter, and the file format they are kept in.

A settings file is read line by line. Blank lines and lines that begin with `#`
say nothing; every other line gives a value to a key, and is read on its own. The
first line that cannot be read makes the whole file unreadable: a mistake in the
settings is a mistake of the setup and has to surface, whereas a query, which is
typed, is never refused.

Later lines win, except that columns are collected and quick items are listed.
-/
import GridFilter.IgnoreSet
import GridFilter.MatchMode
import GridFilter.QuickItem
import GridFilter.Log
import GridFilter.Text.Number

set_option autoImplicit false

namespace GridFilter

/-- The settings of a filter. -/
structure Config where
  matchMode : MatchMode := .findFirst
  /-- Queries with fewer characters do not filter. -/
  minChars : UInt64 := 1
  /-- Grids with fewer rows are not filtered; zero means that all are. -/
  minRows : UInt64 := 8
  ignoreColumns : ColumnSet := .empty
  ignoreTag : Option Text := none
  quickList : List QuickItem := []
  deriving DecidableEq

namespace Config

/-- The cells that the settings keep out of matching. -/
def ignoreSet (c : Config) : IgnoreSet := { columns := c.ignoreColumns, tag := c.ignoreTag }

/-- Whether a grid with so many rows is filtered at all. -/
def isEligible (c : Config) (rowCount : Nat) : Bool :=
  c.minRows == 0 || c.minRows.toNat ≤ rowCount

/-- The first quick item with a label; blanks around it and the case of ASCII
letters do not count. -/
def quickItem? (c : Config) (label : Text) : Option QuickItem :=
  c.quickList.find? fun i => i.label.equalsIgnoringCase label.trim

/-! ## What a line says -/

/-- The keys of the settings. -/
inductive Key where
  | matchMode
  | minChars
  | minRows
  | ignoreColumns
  | ignoreTag
  | quick
  deriving DecidableEq, Repr

namespace Key

/-- A key as it is written. -/
def name : Key → String
  | matchMode => "match_mode"
  | minChars => "min_chars"
  | minRows => "min_rows"
  | ignoreColumns => "ignore_columns"
  | ignoreTag => "ignore_tag"
  | quick => "quick"

/-- All keys, in the order in which they are listed. -/
def all : List Key := [matchMode, minChars, minRows, ignoreColumns, ignoreTag, quick]

/-- The key with a name. -/
def ofName? (name : Text) : Option Key := all.find? (·.name.toList == name)

theorem ofName?_name (k : Key) : ofName? k.name.toList = some k := by
  cases k <;> decide

end Key

/-- What is wrong with a line. -/
inductive LineFault where
  /-- There is no equals sign. -/
  | noAssignment
  | unknownKey (name : Text)
  /-- The value has to be a number and is none, or is too large. -/
  | notANumber (key : Key) (value : Text)
  | unknownMode (e : UnknownMode)
  /-- The value is no quick item. -/
  | notAnItem
  deriving DecidableEq, Repr

/-- The message for a fault. -/
def LineFault.message : LineFault → Text
  | noAssignment => "expected `key = value`".toList
  | unknownKey name =>
    "unknown key `".toList ++ name ++ "`; expected one of: ".toList ++
      Text.join ", ".toList (Key.all.map (·.name.toList))
  | notANumber key value =>
    ('\x60' :: key.name.toList) ++ "` must be a non-negative integer, got `".toList ++
      value ++ ['\x60']
  | unknownMode e => e.message
  | notAnItem => "expected `label | phrase | tooltip`".toList

/-- One assignment of a settings file. -/
inductive Setting where
  | matchMode (m : MatchMode)
  | minChars (n : UInt64)
  | minRows (n : UInt64)
  /-- Columns to ignore besides those that are ignored already. -/
  | ignoreColumns (columns : List UInt64)
  /-- No value takes the tag back. -/
  | ignoreTag (tag : Option Text)
  | quick (item : QuickItem)
  deriving DecidableEq, Repr

/-- What a line says. -/
inductive Line where
  | nothing
  | setting (s : Setting)
  /-- The line cannot be read; `columns` are those it named before the fault. -/
  | fault (columns : List UInt64) (f : LineFault)
  deriving DecidableEq, Repr

namespace Line

/-- A setting, or the fault that keeps it from being read. -/
def ofExcept : Except LineFault Setting → Line
  | .ok s => setting s
  | .error f => fault [] f

/-- Reads a number for a key. -/
def readNumber (key : Key) (value : Text) : Except LineFault UInt64 :=
  match value.readWord? with
  | some n => .ok n
  | none => .error (.notANumber key value)

/-- Reads columns up to the first that is none: those before it, and the fault if
there is one. -/
def readColumns : List Text → List UInt64 × Option LineFault
  | [] => ([], none)
  | value :: rest =>
    match readNumber .ignoreColumns value with
    | .error f => ([], some f)
    | .ok n =>
      let (ns, f) := readColumns rest
      (n :: ns, f)

/-- Reads the value of a key. -/
def readValue (key : Key) (value : Text) : Line :=
  match key with
  | .matchMode => ofExcept (((MatchMode.read value).mapError .unknownMode).map .matchMode)
  | .minChars => ofExcept ((readNumber key value).map .minChars)
  | .minRows => ofExcept ((readNumber key value).map .minRows)
  | .ignoreColumns =>
    match readColumns (((value.splitAll ',').map Text.trim).filter fun t => !t.isEmpty) with
    | (ns, none) => setting (.ignoreColumns ns)
    | (ns, some f) => fault ns f
  | .ignoreTag => setting (.ignoreTag (QuickItem.nonEmpty? value))
  | .quick => ofExcept (((QuickItem.read? value).map .quick).elim (.error .notAnItem) .ok)

/-- Reads a line. -/
def read (line : Text) : Line :=
  let line := line.trim
  if line.isEmpty || line.head? == some '#' then nothing
  else match line.splitFirst? '=' with
    | none => fault [] .noAssignment
    | some (key, value) =>
      let key := key.trim.asciiLower
      match Key.ofName? key with
      | none => fault [] (.unknownKey key)
      | some key => readValue key value.trim

end Line

/-! ## Reading a file -/

/-- A fault, and the line it was found in; lines count from one. -/
structure Fault where
  line : Nat
  fault : LineFault
  deriving DecidableEq, Repr

/-- The message for a fault in a file. -/
def Fault.message (e : Fault) : Text :=
  "line ".toList ++ Text.ofNat e.line ++ ": ".toList ++ e.fault.message

/-- Carries out a setting. -/
def apply (c : Config) : Setting → Config
  | .matchMode m => { c with matchMode := m }
  | .minChars n => { c with minChars := n }
  | .minRows n => { c with minRows := n }
  | .ignoreColumns ns => { c with ignoreColumns := c.ignoreColumns.insertAll ns }
  | .ignoreTag tag => { c with ignoreTag := tag }
  | .quick i => { c with quickList := c.quickList ++ [i] }

/-- A warning for every column that is ignored already, or named before. -/
def repeatedColumns (line : Nat) (set : ColumnSet) : List UInt64 → List LogLine
  | [] => []
  | n :: ns =>
    (if set.contains n then [.columnRepeated line n] else []) ++
      repeatedColumns line (set.insert n) ns

/-- Reads lines from number `n` on, with what came up on the way. -/
def readLines (c : Config) (n : Nat) : List Text → Except Fault Config × List LogLine
  | [] => (.ok c, [])
  | line :: rest =>
    match Line.read line with
    | .nothing => c.readLines (n + 1) rest
    -- The columns named before the fault were added, so they are warned about.
    | .fault columns f => (.error ⟨n, f⟩, repeatedColumns n c.ignoreColumns columns)
    | .setting s =>
      let warnings := match s with
        | .ignoreColumns columns => repeatedColumns n c.ignoreColumns columns
        | _ => []
      let (result, later) := (c.apply s).readLines (n + 1) rest
      (result, warnings ++ later)

/-- Reads a settings file, with what came up on the way. -/
def readWithLog (contents : Text) : Except Fault Config × List LogLine :=
  readLines {} 1 contents.lines

/-- Reads a settings file. -/
def read (contents : Text) : Except Fault Config := (readWithLog contents).1

/-! ## Writing a file -/

/-- A line that gives a value to a key. -/
def writeLine (key : Key) (value : Text) : Text :=
  key.name.toList ++ " = ".toList ++ value ++ ['\n']

/-- Writes the settings in the format they are read from. What is empty is left
out; the three values that are always there are always written. -/
def write (c : Config) : Text :=
  writeLine .matchMode c.matchMode.name.toList ++
  writeLine .minChars (Text.ofWord c.minChars) ++
  writeLine .minRows (Text.ofWord c.minRows) ++
  (if c.ignoreColumns.isEmpty then []
   else writeLine .ignoreColumns
     (Text.join ", ".toList (c.ignoreColumns.toList.map Text.ofWord))) ++
  (c.ignoreTag.elim [] (writeLine .ignoreTag)) ++
  c.quickList.flatMap fun i => writeLine .quick i.write

/-- The settings file that is written for a start: the default values, and
examples of the others as comments. -/
def sample : Text :=
  ("# How each term is matched against a cell: find_first, find_any, find_all\n" ++
   "match_mode = find_first\n" ++
   "# Filter only once the query has at least this many characters\n" ++
   "min_chars = 1\n" ++
   "# Grids with fewer rows than this are not filtered (0 = always filter)\n" ++
   "min_rows = 8\n" ++
   "# Columns (0-based, comma separated) never matched; switches to single-pass matching\n" ++
   "# ignore_columns = 0, 3\n" ++
   "# Cells carrying this tag are never matched\n" ++
   "# ignore_tag = nofilter\n" ++
   "# Quick list entries: label | phrase | tooltip\n" ++
   "# quick = Errors | /^E\\d+/ | Rows starting with an error code\n").toList

end Config

end GridFilter
