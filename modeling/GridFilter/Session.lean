/-
A session: one filter at work on one grid.

The session remembers the query, taken apart, and the summary of the last
evaluation. The grid stays with its host, who may change it at any time; nothing
is evaluated again until the session is asked to.
-/
import GridFilter.Config
import GridFilter.Evaluation

set_option autoImplicit false

namespace GridFilter

/-- Evaluates a query that has been taken apart under the settings. -/
def Config.filterParsed (c : Config) (g : Grid) (query : ParsedQuery) : Evaluation :=
  evaluateParsed g query c.matchMode c.ignoreSet c.minChars

/-- Evaluates a query under the settings. -/
def Config.filter (c : Config) (g : Grid) (query : Text) : Evaluation :=
  c.filterParsed g (.ofText query)

/-- The state of a session. -/
structure Session where
  config : Config
  /-- The present query, as it was taken apart when it was set. -/
  current : ParsedQuery := {}
  summary : Summary := {}
  deriving DecidableEq

/-- A session, its grid, and what came up on the way to both. -/
structure Step where
  session : Session
  grid : Grid
  log : List LogLine := []

namespace Session

/-- The present query. -/
def query (s : Session) : Text := s.current.raw

/-- The terms of the present query. -/
def terms (s : Session) : List Term := s.current.terms

/-- Whether the last evaluation filtered. -/
def isActive (s : Session) : Bool := s.summary.active

/-- Evaluates the present query again. -/
def refresh (s : Session) (g : Grid) : Step :=
  let e := s.config.filterParsed g s.current
  { session := { s with summary := e.summary }, grid := e.grid, log := e.log }

/-- Changes the query and evaluates it. -/
def setQuery (s : Session) (g : Grid) (query : Text) : Step :=
  { s with current := .ofText query }.refresh g

/-- Drops the query, so that every row is shown. -/
def clear (s : Session) (g : Grid) : Step := s.setQuery g []

/-- Picks a quick item by its label, if there is one. -/
def pick? (s : Session) (g : Grid) (label : Text) (mods : PickModifiers) : Option Step :=
  (s.config.quickItem? label).map fun i =>
    s.setQuery g (composeQuery s.query i.phrase mods)

end Session

end GridFilter
