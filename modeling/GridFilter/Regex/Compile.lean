/-
From a pattern to an expression that may be used.

Two limits keep a pattern from costing too much, both on what was written and
not on the text that will be searched: how deeply it nests, and how much room a
machine for it would take, with its repetitions unfolded.
-/
import GridFilter.Regex.Reader
import GridFilter.Regex.Room

set_option autoImplicit false

namespace GridFilter.Regex

/-- Patterns may nest this deeply. -/
def depthLimit : Nat := 250

/-- Machines may take this much room: ten mebibytes. -/
def roomLimit : Nat := 10 * 1024 * 1024

/-- Whether the machines for a blueprint are within the limit, forward and
backward. -/
def Blueprint.isWithinLimit (p : Blueprint) : Bool :=
  p.room false ≤ roomLimit && p.room true ≤ roomLimit

/-- The expression of a pattern read under the given flags, if the pattern is
well formed and within the limits. -/
def compile? (pattern : Text) (flags : Flags) : Option Regex := do
  let part ← readPattern { flags } (pattern.length + 1) pattern
  if part.depth ≤ depthLimit && part.blueprint.isWithinLimit then some part.regex else none

end GridFilter.Regex
