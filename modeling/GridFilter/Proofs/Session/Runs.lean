/-
Runs of a session.

A session keeps three things beside a grid that it does not own: the query, the
terms it was taken apart into, and the summary of the last evaluation. The host
may change the grid between any two calls, and the session is not told. A run is
any finite sequence of calls and of such changes.

The calls of a run are all alike in the end: each evaluates the query that was
set last on the grid as it is. The state after a call is therefore the one that a
new session reaches by setting that query at once
(`Session.run_append_of_evaluates`), and since an evaluation forgets the flags it
finds, the grid may as well be a fresh one with the same content.
-/
import GridFilter.Proofs.Evaluation.FreshStart
import GridFilter.Session

set_option autoImplicit false

namespace GridFilter

/-! ## Events -/

/-- What can happen to a session or to its grid. -/
inductive SessionEvent where
  | setQuery (query : Text)
  | refresh
  | clear
  /-- The host changes the grid, in whatever way. -/
  | edit (change : Grid → Grid)

namespace SessionEvent

/-- Whether the session evaluates its query. -/
def evaluates : SessionEvent → Bool
  | edit _ => false
  | _ => true

/-- Whether the query is dropped. -/
def drops : SessionEvent → Bool
  | clear => true
  | _ => false

/-- The query that is set, if one is. -/
def query? : SessionEvent → Option Text
  | setQuery query => some query
  | _ => none

end SessionEvent

/-- The query that was set last since the query was last dropped; the empty one if
there is none. -/
def lastQuery (es : List SessionEvent) : Text :=
  ((es.reverse.takeWhile fun e => !e.drops).findSome? SessionEvent.query?).getD []

/-- What an event makes of a session and its grid. -/
def Step.next (s : Step) : SessionEvent → Step
  | .setQuery query => s.session.setQuery s.grid query
  | .refresh => s.session.refresh s.grid
  | .clear => s.session.clear s.grid
  | .edit change => { session := s.session, grid := change s.grid }

/-- Where a new session and a grid are after some events. -/
def Session.run (config : Config) (g : Grid) (es : List SessionEvent) : Step :=
  es.foldl Step.next { session := { config }, grid := g }

/-! ## One event more -/

theorem lastQuery_append_singleton (es : List SessionEvent) (e : SessionEvent) :
    lastQuery (es ++ [e]) =
      match e with
      | .setQuery query => query
      | .clear => []
      | .refresh | .edit _ => lastQuery es := by
  unfold lastQuery
  rw [List.reverse_append, List.reverse_singleton, List.singleton_append]
  cases e <;> rfl

namespace Session

variable {config : Config} {g : Grid}

theorem run_append_singleton (es : List SessionEvent) (e : SessionEvent) :
    run config g (es ++ [e]) = (run config g es).next e := by
  rw [run, List.foldl_append]
  rfl

/-- After every run the session still has its settings, and the query it holds is
the one set last, with its own terms. -/
theorem run_config_current (config : Config) (g : Grid) (es : List SessionEvent) :
    (run config g es).session.config = config ∧
      (run config g es).session.current = .ofText (lastQuery es) := by
  induction es using List.reverseRecOn with
  | nil => exact ⟨rfl, rfl⟩
  | append_singleton es e ih =>
    rw [run_append_singleton, lastQuery_append_singleton]
    obtain ⟨hc, hq⟩ := ih
    cases e with
    | setQuery query => exact ⟨hc, rfl⟩
    | refresh => exact ⟨hc, hq⟩
    | clear => exact ⟨hc, rfl⟩
    | edit change => exact ⟨hc, hq⟩

/-- **Every call does what a new session would do.** It leaves the state that
setting the present query leaves, be it a call that sets it, drops it or
evaluates it again. -/
theorem run_append_of_evaluates (es : List SessionEvent) {e : SessionEvent}
    (h : e.evaluates = true) :
    run config g (es ++ [e]) =
      ({ config } : Session).setQuery (run config g es).grid (lastQuery (es ++ [e])) := by
  obtain ⟨hc, hq⟩ := run_config_current config g es
  rw [run_append_singleton, lastQuery_append_singleton]
  cases e with
  | setQuery query => simp only [Step.next, setQuery, refresh, hc]
  | refresh => simp only [Step.next, setQuery, refresh, hc, hq]
  | clear => simp only [Step.next, clear, setQuery, refresh, hc]
  | edit change => exact absurd h (by simp [SessionEvent.evaluates])

/-- What the host does to the grid does not reach the session. -/
theorem run_append_edits (es edits : List SessionEvent)
    (h : ∀ e ∈ edits, e.evaluates = false) :
    (run config g (es ++ edits)).session = (run config g es).session := by
  induction edits using List.reverseRecOn with
  | nil => rw [List.append_nil]
  | append_singleton edits e ih =>
    rw [← List.append_assoc, run_append_singleton]
    cases e with
    | edit change => exact ih fun e he => h e (List.mem_append_left _ he)
    | setQuery | refresh | clear =>
      have quiet := h _ (List.mem_append_right _ List.mem_cons_self)
      exact absurd quiet (by simp [SessionEvent.evaluates])

/-! ## What a new session does -/

/-- The summary after a query is set is that of the grid as it is left. -/
theorem setQuery_summary (s : Session) (g : Grid) (query : Text) :
    (s.setQuery g query).session.summary =
      Summary.ofGrid (s.setQuery g query).grid (!Query.isDegenerate query s.config.minChars) := by
  simp only [setQuery, refresh, Config.filterParsed, evaluateParsed_summary, ParsedQuery.ofText]

/-- Setting a query filters exactly when the query is there and long enough. -/
theorem setQuery_isActive_iff (s : Session) (g : Grid) (query : Text) :
    (s.setQuery g query).session.isActive = true ↔
      query ≠ [] ∧ s.config.minChars.toNat ≤ query.length := by
  rw [isActive, setQuery_summary, Summary.ofGrid, Bool.not_eq_true',
    Query.isDegenerate_eq_false_iff]

/-- Setting a query writes no content. -/
theorem setQuery_sameContent (s : Session) (g : Grid) (query : Text) :
    (s.setQuery g query).grid.SameContent g :=
  evaluateParsed_sameContent g (.ofText query) s.config.minChars

/-- Setting a query cannot tell grids of the same content apart. -/
theorem setQuery_congr (s : Session) {g h : Grid} (same : g.SameContent h) (query : Text) :
    s.setQuery g query = s.setQuery h query := by
  simp only [setQuery, refresh, Config.filterParsed, evaluateParsed_congr same]

end Session

/-- **What holds of a session after every run.** At every point the terms are those
of the query, and the query is the one set last since it was last dropped; the
summary is that of the grid as the last call left it, whatever the host did to the
grid since, and the empty one before the first call. And right after a call,
session and grid are as if a new session had set the query on a fresh grid with the
same content; it filters exactly when the query is there and long enough. -/
theorem session_run_coherent (config : Config) (g : Grid) (es : List SessionEvent) :
    let s := Session.run config g es
    s.session.terms = Query.terms s.session.query ∧
    s.session.query = lastQuery es ∧
    ((∀ e ∈ es, e.evaluates = false) → s.session.summary = {}) ∧
    (∀ (before : List SessionEvent) (call : SessionEvent) (edits : List SessionEvent),
      es = before ++ [call] ++ edits → call.evaluates = true →
      (∀ e ∈ edits, e.evaluates = false) →
      s.session.summary =
        Summary.ofGrid (Session.run config g (before ++ [call])).grid
          (!Query.isDegenerate s.session.query config.minChars)) ∧
    (∀ call : SessionEvent, call.evaluates = true →
      let s' := Session.run config g (es ++ [call])
      (∀ fresh : Grid, fresh.SameContent s'.grid →
        s' = ({ config } : Session).setQuery fresh s'.session.query) ∧
      (s'.session.isActive = true ↔
        s'.session.query ≠ [] ∧ config.minChars.toNat ≤ s'.session.query.length)) := by
  intro s
  obtain ⟨_, current⟩ := Session.run_config_current config g es
  have query_eq : s.session.query = lastQuery es := congrArg ParsedQuery.raw current
  refine ⟨?_, query_eq, fun quiet => ?_, fun before call edits split called quiet => ?_,
    fun call called => ?_⟩
  · rw [query_eq]
    exact congrArg ParsedQuery.terms current
  · exact congrArg Session.summary (Session.run_append_edits [] es quiet)
  · -- The edits leave the session alone, so it is as the call left it.
    have kept : s.session = (Session.run config g (before ++ [call])).session := by
      rw [← Session.run_append_edits (before ++ [call]) edits quiet, ← split]
    rw [kept, Session.run_append_of_evaluates before called, Session.setQuery_summary]
    rfl
  · intro s'
    have new : s' = ({ config } : Session).setQuery (Session.run config g es).grid
        (lastQuery (es ++ [call])) := Session.run_append_of_evaluates es called
    have query_eq' : s'.session.query = lastQuery (es ++ [call]) :=
      congrArg ParsedQuery.raw (Session.run_config_current config g (es ++ [call])).2
    refine ⟨fun fresh same => ?_, ?_⟩
    · have content : fresh.SameContent (Session.run config g es).grid := by
        rw [new] at same
        exact same.trans (Session.setQuery_sameContent _ _ _)
      rw [query_eq', Session.setQuery_congr _ content, ← new]
    · rw [query_eq', new]
      exact Session.setQuery_isActive_iff _ _ _

end GridFilter
