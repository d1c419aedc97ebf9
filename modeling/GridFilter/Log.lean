/-
What the library reports while it works.

Reports are values: whatever may be worth reporting returns its lines along with
its result, in the order in which they came up. Nothing is decided by a report;
it only says how a decision was come to.
-/
import GridFilter.Query
import GridFilter.Text.Quoted
import GridFilter.Text.Number

set_option autoImplicit false

namespace GridFilter

/-- One line of a report. -/
inductive LogLine where
  /-- A regular-expression literal names a flag twice. -/
  | flagRepeated (fragment : Text) (flag : Char)
  /-- A regular-expression literal names a flag that does not exist. -/
  | flagUnsupported (fragment : Text) (flag : Char)
  /-- The pattern of a literal is not acceptable. -/
  | literalRefused (fragment : Text)
  /-- A fragment is no regular expression and is looked for as it is. -/
  | fragmentLiteral (fragment : Text)
  /-- A term was applied, and this many rows changed their visibility. The rows are counted
  with 32 bits and a sign. -/
  | termApplied (term : Term) (changed : Int32)
  /-- A query was matched as a whole, and this many rows are visible. -/
  | wholeQueryApplied (query : Text) (visible : Nat)
  /-- A line of the settings names a column that is ignored already. -/
  | columnRepeated (line : Nat) (column : UInt64)
  deriving DecidableEq, Repr

namespace LogLine

/-- How much a line matters. -/
def level : LogLine → String
  | columnRepeated .. => "warn"
  | _ => "debug"

/-- The message of a line. What the expression engine has to say about a pattern that it does
not accept stands behind a colon in the messages of `literalRefused` and `fragmentLiteral`;
these words are the engine's own, and are left out here together with the colon. -/
def message : LogLine → Text
  | flagRepeated fragment flag =>
    "regex literal ".toList ++ fragment.quote ++ " repeats flag `".toList ++ [flag, '\x60']
  | flagUnsupported fragment flag =>
    "regex literal ".toList ++ fragment.quote ++ " has unsupported flag `".toList ++
      [flag, '\x60']
  | literalRefused fragment =>
    "regex literal ".toList ++ fragment.quote ++ " failed to compile".toList
  | fragmentLiteral fragment =>
    "fragment ".toList ++ fragment.quote ++ " is not a valid regex, matching literally".toList
  | termApplied term changed =>
    "term `".toList ++ term.display ++ "` changed visibility of ".toList ++
      Text.ofInt changed.toInt ++ " row(s)".toList
  | wholeQueryApplied query visible =>
    "column-restricted query ".toList ++ query.quote ++ " matched ".toList ++
      Text.ofNat visible ++ " row(s)".toList
  | columnRepeated line column =>
    "line ".toList ++ Text.ofNat line ++ ": column ".toList ++ Text.ofWord column ++
      " is ignored more than once".toList

/-- A line with its level in front. -/
def text (l : LogLine) : Text := l.level.toList ++ ": ".toList ++ l.message

end LogLine

end GridFilter
