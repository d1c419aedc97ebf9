/-
The ways a fragment can be looked for in a cell.
-/
import GridFilter.Text.Basic

set_option autoImplicit false

namespace GridFilter

/-- How a fragment is tested against the text of a cell. -/
inductive MatchMode where
  /-- The fragment is an expression that is searched for, in any case. -/
  | findFirst
  /-- Some phrase of the fragment occurs in the text. -/
  | findAny
  /-- Every phrase of the fragment occurs in the text. -/
  | findAll
  deriving DecidableEq, Repr

/-- A value that names no match mode. -/
structure UnknownMode where
  value : Text
  deriving DecidableEq, Repr

namespace UnknownMode

/-- The message for a value that names no match mode. -/
def message (e : UnknownMode) : Text :=
  "unknown match mode `".toList ++ e.value ++
    "`; expected one of: find_first, find_any, find_all".toList

end UnknownMode

namespace MatchMode

/-- The name of a mode in settings. -/
def name : MatchMode → String
  | findFirst => "find_first"
  | findAny => "find_any"
  | findAll => "find_all"

/-- All names that stand for a mode, in lower case. -/
def names : MatchMode → List String
  | findFirst => ["find_first", "first", "filtertablefind"]
  | findAny => ["find_any", "any", "filtertablefindany"]
  | findAll => ["find_all", "all", "filtertablefindall"]

/-- Reads the name of a mode; blanks around it and its case do not count. -/
def read (value : Text) : Except UnknownMode MatchMode :=
  let key := Text.asciiLower (Text.trim value)
  match [findFirst, findAny, findAll].find? fun m => m.names.any (·.toList == key) with
  | some m => .ok m
  | none => .error ⟨Text.trim value⟩

/-- Every mode is read back from its name. -/
theorem read_name (m : MatchMode) : read m.name.toList = .ok m := by
  cases m <;> rfl

end MatchMode

end GridFilter
