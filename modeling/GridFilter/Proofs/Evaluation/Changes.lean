/-
The changes in the log add up, as far as they are counted.

While the terms of a query are applied, each reports how many rows it changed. It counts them
by a rule of its own, one for each sign (`Row.counts`): a term that reveals counts what it
finds in a row that is hidden, and the others count the rows they take away. The rule is not
how a row is changed, but it agrees with it: a row is counted exactly if its visibility is
another one afterwards (`Row.counts_eq`).

Since no row is visible at first, the reports are the accounts of the rows that are shown.
What the terms that reveal have changed was shown, and what the others have changed was taken
away, so the difference is the number of visible rows, after all terms and after the first few
of them. One term adds the rows that it turns around or takes them away
(`visibleCount_applySign`); the run is an induction over the terms from the front, in which
the grid is arbitrary (`Grid.balance_turned`).

What is reported is not the number of these rows but what a counter with 32 bits and a sign
makes of it (`Grid.changesOf_applyTerms`). The counter is exact below 2^31 rows. From there on
it is wrong by a multiple of 2^32, and so is the account (`gained_sub_lost_map_asCounted`).
-/
import GridFilter.Proofs.Evaluation.RowWise
import Mathlib.Data.Int.ModEq

set_option autoImplicit false

namespace GridFilter

/-! ## What the log says about changes -/

/-- The term that a line reports about, and how many rows it says were changed. -/
def LogLine.change? : LogLine → Option (Term × Int)
  | .termApplied t changed => some (t, changed.toInt)
  | _ => none

/-- The changes that a log reports, in order. -/
def changesOf (log : List LogLine) : List (Term × Int) := log.filterMap LogLine.change?

theorem changesOf_append (front back : List LogLine) :
    changesOf (front ++ back) = changesOf front ++ changesOf back :=
  List.filterMap_append

/-- How many rows the terms that reveal have changed. -/
def gained (changes : List (Term × Int)) : Int :=
  ((changes.filter fun c => c.1.sign = .reveal).map (·.2)).sum

/-- How many rows the other terms have changed. -/
def lost (changes : List (Term × Int)) : Int :=
  ((changes.filter fun c => c.1.sign ≠ .reveal).map (·.2)).sum

/-- How many rows one sign adds to those that are visible, if it changes so many. -/
def Sign.balance (sign : Sign) (changed : Int) : Int :=
  if sign = .reveal then changed else -changed

theorem Sign.balance_add (sign : Sign) (m n : Int) :
    sign.balance (m + n) = sign.balance m + sign.balance n := by
  unfold balance
  split
  · rfl
  · exact Int.neg_add

theorem gained_cons (t : Term) (n : Int) (changes : List (Term × Int)) :
    gained ((t, n) :: changes) = (if t.sign = .reveal then n else 0) + gained changes := by
  rw [gained, List.filter_cons]
  by_cases h : t.sign = .reveal <;> simp [h, gained]

theorem lost_cons (t : Term) (n : Int) (changes : List (Term × Int)) :
    lost ((t, n) :: changes) = (if t.sign = .reveal then 0 else n) + lost changes := by
  rw [lost, List.filter_cons]
  by_cases h : t.sign = .reveal <;> simp [h, lost]

/-- One change more is added to one of the two sums. -/
theorem gained_sub_lost_cons (t : Term) (n : Int) (changes : List (Term × Int)) :
    gained ((t, n) :: changes) - lost ((t, n) :: changes) =
      t.sign.balance n + (gained changes - lost changes) := by
  rw [gained_cons, lost_cons, Sign.balance]
  by_cases h : t.sign = .reveal
  · rw [if_pos h, if_pos h, if_pos h]
    omega
  · rw [if_neg h, if_neg h, if_neg h]
    omega

/-! ## The counter -/

/-- A change as it is reported: the number of rows as it is held with 32 bits and a sign. -/
def asCounted (change : Term × Int) : Term × Int := (change.1, change.2.bmod (2 ^ 32))

theorem toInt_ofNat_eq_bmod (n : Nat) : (Int32.ofNat n).toInt = (n : Int).bmod (2 ^ 32) :=
  Int32.toInt_ofNat'

/-- Below 2^31 the counter is exact. -/
theorem bmod_eq_self_of_lt {n : Nat} (h : n < 2 ^ 31) : (n : Int).bmod (2 ^ 32) = n := by
  rw [← toInt_ofNat_eq_bmod, Int32.toInt_ofNat_of_lt h]

/-- Numbers that are all below 2^31 are reported as they are. -/
theorem mapIdx_bmod_eq_self {changed : Nat → Nat} {ts : List Term}
    (small : ∀ k < ts.length, changed k < 2 ^ 31) :
    (ts.mapIdx fun k t => (t, (changed k : Int).bmod (2 ^ 32))) =
      ts.mapIdx fun k t => (t, (changed k : Int)) :=
  List.mapIdx_eq_mapIdx_iff.2 fun k inside =>
    congrArg (Prod.mk _) (bmod_eq_self_of_lt (small k inside))

/-- An account of what is reported is wrong by a multiple of 2^32 at most. -/
theorem gained_sub_lost_map_asCounted (changes : List (Term × Int)) :
    gained (changes.map asCounted) - lost (changes.map asCounted) ≡
      gained changes - lost changes [ZMOD 2 ^ 32] := by
  induction changes with
  | nil => rfl
  | cons c changes ih =>
    obtain ⟨t, n⟩ := c
    have counted : n.bmod (2 ^ 32) ≡ n [ZMOD 2 ^ 32] := Int.bmod_emod
    have one : t.sign.balance (n.bmod (2 ^ 32)) ≡ t.sign.balance n [ZMOD 2 ^ 32] := by
      unfold Sign.balance
      split
      · exact counted
      · exact counted.neg
    rw [List.map_cons, asCounted, gained_sub_lost_cons, gained_sub_lost_cons]
    exact one.add ih

/-! ## Matchers report no changes -/

namespace RegexLiteral

variable {fragment flags : Text} {seen : List Char} {f : Regex.Flags} {l : LogLine}

theorem change?_of_readFlags (h : readFlags fragment seen f flags = .error l) :
    l.change? = none := by
  induction flags generalizing seen f with
  | nil => cases h
  | cons flag flags ih =>
    rw [readFlags] at h
    split at h
    · cases h
      rfl
    · split at h
      · exact ih h
      · cases h
        rfl

theorem change?_of_compile (h : compile fragment = .error (some l)) : l.change? = none := by
  unfold compile at h
  split at h
  · cases h
  · split at h
    · rename_i read
      cases h
      exact change?_of_readFlags read
    · split at h
      · cases h
      · cases h
        rfl

end RegexLiteral

/-- What comes up while a fragment is made ready is about the fragment, not about rows. -/
theorem Matcher.changesOf_prepare (fragment : Text) (mode : MatchMode) :
    changesOf (prepare fragment mode).2 = [] := by
  refine List.filterMap_eq_nil_iff.2 fun l hl => ?_
  unfold prepare at hl
  split at hl
  · cases hl
  · rename_i reason refused
    rcases List.mem_append.1 hl with hl | hl
    · rw [Option.mem_toList.1 hl] at refused
      exact RegexLiteral.change?_of_compile refused
    · unfold ofMode at hl
      split at hl
      · split at hl
        · cases hl
        · rw [List.mem_singleton.1 hl]
          rfl
      · cases hl
      · cases hl

/-! ## One term -/

/-- How many rows differ in visibility between two states of a grid. -/
def Grid.changedRows (before after : Grid) : Nat :=
  (before.rows.zip after.rows).countP fun (r, s) => r.visible != s.visible

section

variable {mode : MatchMode} {ignore : IgnoreSet} {m : Matcher}

/-- **A sign counts a row exactly if it turns its visibility around.** -/
theorem Row.counts_eq (sign : Sign) (r : Row) :
    r.counts sign ignore m = (r.visible != (r.applySign sign ignore m).visible) := by
  rw [applySign_visible, found]
  unfold counts
  cases sign <;> cases r.visible <;> cases (r.hits ignore m).any id <;> rfl

namespace Grid

/-- So the rows that are counted are those that differ afterwards. -/
theorem countP_counts_eq (sign : Sign) (g : Grid) :
    g.rows.countP (Row.counts sign ignore m) = changedRows g (g.applySign sign ignore m) := by
  obtain ⟨rows⟩ := g
  simp only [changedRows, applySign]
  induction rows with
  | nil => rfl
  | cons r rows ih =>
    rw [List.map_cons, List.zip_cons_cons, List.countP_cons, List.countP_cons, ih, r.counts_eq]

theorem changedRows_le (before after : Grid) : changedRows before after ≤ before.rows.length := by
  refine List.countP_le_length.trans ?_
  rw [List.length_zip]
  exact Nat.min_le_left _ _

/-- **A term adds the rows that it turns around, or takes them away.** -/
theorem visibleCount_applySign (sign : Sign) (g : Grid) :
    ((g.applySign sign ignore m).visibleCount : Int) =
      g.visibleCount + sign.balance (changedRows g (g.applySign sign ignore m)) := by
  obtain ⟨rows⟩ := g
  simp only [visibleCount, changedRows, applySign]
  induction rows with
  | nil => cases sign <;> rfl
  | cons r rows ih =>
    -- a sign that reveals turns no row off, and the others turn none on
    have one : ((if (r.applySign sign ignore m).visible then 1 else 0 : Nat) : Int) =
        (if r.visible then 1 else 0 : Nat) +
          sign.balance (if r.visible != (r.applySign sign ignore m).visible then 1 else 0 : Nat) := by
      rw [Row.applySign_visible]
      cases sign <;> cases r.visible <;> cases r.found ignore m <;> rfl
    rw [List.map_cons, List.zip_cons_cons, List.countP_cons, List.countP_cons, List.countP_cons,
      Nat.cast_add, Nat.cast_add, Nat.cast_add, ih, one, Sign.balance_add]
    exact add_add_add_comm _ _ _ _

/-! ## All terms -/

/-- How many rows each of some terms turns around, one term after the other. -/
def turned (mode : MatchMode) (ignore : IgnoreSet) (g : Grid) : List Term → List (Term × Int)
  | [] => []
  | t :: ts =>
    let after := (g.applyTerm mode ignore t).1
    (t, changedRows g after) :: after.turned mode ignore ts

/-- The numbers are those of the first terms, for the first of them. -/
theorem take_turned (g : Grid) (ts : List Term) (k : Nat) :
    (g.turned mode ignore ts).take k = g.turned mode ignore (ts.take k) := by
  induction ts generalizing g k with
  | nil => rw [turned, List.take_nil, List.take_nil, turned]
  | cons t ts ih =>
    cases k with
    | zero => rfl
    | succ k => rw [turned, List.take_succ_cons, List.take_succ_cons, turned, ih]

/-- A term turns around what differs between the grid that the terms before it leave and the
one that it leaves itself. -/
theorem turned_eq_mapIdx (g : Grid) (ts : List Term) :
    g.turned mode ignore ts = ts.mapIdx fun k t =>
      (t, (changedRows (g.applyTerms mode ignore (ts.take k)).1
        (g.applyTerms mode ignore (ts.take (k + 1))).1 : Int)) := by
  induction ts generalizing g with
  | nil => rfl
  | cons t ts ih =>
    rw [turned, List.mapIdx_cons, ih]
    rfl

/-- **A run of terms keeps the account.** -/
theorem balance_turned (g : Grid) (ts : List Term) :
    ((g.applyTerms mode ignore ts).1.visibleCount : Int) =
      g.visibleCount + (gained (g.turned mode ignore ts) - lost (g.turned mode ignore ts)) := by
  induction ts generalizing g with
  | nil => simp [applyTerms, turned, gained, lost]
  | cons t ts ih =>
    have first : ((g.applyTerm mode ignore t).1.visibleCount : Int) =
        g.visibleCount + t.sign.balance (changedRows g (g.applyTerm mode ignore t).1) :=
      visibleCount_applySign t.sign g
    have whole : (g.applyTerms mode ignore (t :: ts)).1 =
      ((g.applyTerm mode ignore t).1.applyTerms mode ignore ts).1 := rfl
    rw [whole, ih, turned, gained_sub_lost_cons, first, Int.add_assoc]

/-- From a grid without visible rows, the account of the first few terms is the number of the
rows that are visible after them. -/
theorem balance_take_turned_reset (g : Grid) (ts : List Term) (k : Nat) :
    gained (((g.reset false).turned mode ignore ts).take k) -
        lost (((g.reset false).turned mode ignore ts).take k) =
      ((g.reset false).applyTerms mode ignore (ts.take k)).1.visibleCount := by
  rw [take_turned, balance_turned, visibleCount_reset, if_neg Bool.false_ne_true, Nat.cast_zero,
    Int.zero_add]

theorem length_rows_applyTerms_reset (g : Grid) (ts : List Term) :
    ((g.reset false).applyTerms mode ignore ts).1.rows.length = g.rows.length := by
  rw [applyTerms_grid, List.length_map, reset, List.length_map]

/-- **One change is reported for each term**, in order, and it is what the term turns around as
far as it is counted. -/
theorem changesOf_applyTerms (g : Grid) (ts : List Term) :
    changesOf (g.applyTerms mode ignore ts).2 = (g.turned mode ignore ts).map asCounted := by
  induction ts generalizing g with
  | nil => rfl
  | cons t ts ih =>
    have reported : (g.countChanges t.sign ignore (Matcher.prepare t.fragment mode).1).toInt =
        (changedRows g (g.applyTerm mode ignore t).1 : Int).bmod (2 ^ 32) := by
      rw [countChanges_eq_ofNat, countP_counts_eq]
      exact toInt_ofNat_eq_bmod _
    rw [applyTerms, changesOf_append, applyTerm, changesOf_append, Matcher.changesOf_prepare,
      turned, List.map_cons, asCounted, ← reported, ← ih]
    rfl

end Grid

/-! ## Evaluations -/

/-- A query whose terms are applied leaves the grid and the log of the run of its terms. -/
theorem evaluate_of_terms {raw : Text} {minChars : UInt64} (g : Grid)
    (long : Query.isDegenerate raw minChars = false) (no_columns : ignore.hasColumns = false) :
    let run := (g.reset false).applyTerms mode ignore (Query.terms raw)
    (evaluate g raw mode ignore minChars).grid = run.1 ∧
      (evaluate g raw mode ignore minChars).log = run.2 := by
  simp [evaluate, evaluateParsed, ParsedQuery.ofText, long, no_columns]

private theorem map_mapIdx {α β γ : Type} (f : Nat → α → β) (g : β → γ) (as : List α) :
    (as.mapIdx f).map g = as.mapIdx fun i a => g (f i a) := by
  rw [List.mapIdx_eq_zipIdx_map, List.map_map, List.mapIdx_eq_zipIdx_map]
  rfl

/-- **The changes in the log account for the visible rows, as far as they are counted.** The
query is long enough to filter by and no columns are ignored, so its terms are applied to a
grid whose rows are all hidden. The log reports one change for each term, in the order of the
terms: the number of the rows that are visible before the term or after it but not both times,
held with 32 bits and a sign. What is reported for terms that reveal, less what is reported
for the other terms, is the number of visible rows but for a multiple of 2^32, after all terms
and after the first few.

No term changes more rows than there are. If each changes fewer than 2^31, the reports are the
numbers of the changed rows, and the difference is the number of visible rows in the summary.
The same holds after the first few terms, so no such difference is negative or larger than the
number of rows. -/
theorem evaluate_changes_account (g : Grid) (raw : Text) (mode : MatchMode) (ignore : IgnoreSet)
    (minChars : UInt64) (long : Query.isDegenerate raw minChars = false)
    (no_columns : ignore.hasColumns = false) :
    let e := evaluate g raw mode ignore minChars
    let ts := Query.terms raw
    let after (k : Nat) : Grid := ((g.reset false).applyTerms mode ignore (ts.take k)).1
    let changed (k : Nat) : Nat := Grid.changedRows (after k) (after (k + 1))
    let changes := changesOf e.log
    let balance (k : Nat) : Int := gained (changes.take k) - lost (changes.take k)
    after ts.length = e.grid ∧
    changes = ts.mapIdx (fun k t => (t, (changed k : Int).bmod (2 ^ 32))) ∧
    (∀ k, balance k ≡ (after k).visibleCount [ZMOD 2 ^ 32]) ∧
    (∀ k, changed k ≤ g.rows.length) ∧
    ((∀ k < ts.length, changed k < 2 ^ 31) →
      changes = ts.mapIdx (fun k t => (t, (changed k : Int))) ∧
      gained changes - lost changes = e.summary.visibleRows ∧
      ∀ k, balance k = (after k).visibleCount ∧ 0 ≤ balance k ∧ balance k ≤ g.rows.length) := by
  intro e ts after changed changes balance
  obtain ⟨grid_eq, log_eq⟩ : e.grid = ((g.reset false).applyTerms mode ignore ts).1 ∧
      e.log = ((g.reset false).applyTerms mode ignore ts).2 := evaluate_of_terms g long no_columns
  have summary_eq : e.summary.visibleRows = e.grid.visibleCount :=
    congrArg Summary.visibleRows (evaluate_summary g raw minChars)
  have all_terms : after ts.length = e.grid := by
    rw [grid_eq]
    exact congrArg (fun us => ((g.reset false).applyTerms mode ignore us).1) List.take_length
  -- the account is proved of the exact numbers; the log holds them as far as they are counted
  let exact_changes := (g.reset false).turned mode ignore ts
  have exact_eq : exact_changes = ts.mapIdx fun k t => (t, (changed k : Int)) :=
    Grid.turned_eq_mapIdx _ ts
  have changes_eq : changes = exact_changes.map asCounted := by
    rw [← Grid.changesOf_applyTerms, ← log_eq]
  have exact_balance (k : Nat) :
      gained (exact_changes.take k) - lost (exact_changes.take k) = (after k).visibleCount :=
    Grid.balance_take_turned_reset g ts k
  have counted_eq : changes = ts.mapIdx fun k t => (t, (changed k : Int).bmod (2 ^ 32)) := by
    rw [changes_eq, exact_eq, map_mapIdx]
    rfl
  refine ⟨all_terms, counted_eq, fun k => ?_, fun k => ?_, fun small => ?_⟩
  · rw [← exact_balance k]
    show gained (changes.take k) - lost (changes.take k) ≡ _ [ZMOD 2 ^ 32]
    rw [changes_eq, ← List.map_take]
    exact gained_sub_lost_map_asCounted _
  · rw [← Grid.length_rows_applyTerms_reset g (ts.take k)]
    exact Grid.changedRows_le _ _
  · have reported_exactly : changes = exact_changes := by
      rw [counted_eq, exact_eq, mapIdx_bmod_eq_self small]
    have balance_eq (k : Nat) : balance k = (after k).visibleCount := by
      rw [← exact_balance k, ← reported_exactly]
    refine ⟨reported_exactly.trans exact_eq, ?_, fun k => ⟨balance_eq k, ?_, ?_⟩⟩
    · have as_many : changes.length = ts.length := by rw [counted_eq, List.length_mapIdx]
      rw [summary_eq, ← all_terms, ← balance_eq, ← as_many]
      show _ = gained (changes.take changes.length) - lost (changes.take changes.length)
      rw [List.take_length]
    · rw [balance_eq]
      exact Int.natCast_nonneg _
    · rw [balance_eq, Int.ofNat_le, ← Grid.length_rows_applyTerms_reset g (ts.take k)]
      exact List.countP_le_length

/-- One row is shown, taken away and shown again, and another is never shown. -/
theorem evaluate_changes_account_shown_again :
    let g : Grid :=
      ⟨[{ cells := [{ text := ['a', 'b'] }] }, { cells := [{ text := ['a'] }] },
        { cells := [{ text := ['c'] }, { text := ['b'], tags := [['n']] }] }]⟩
    let e := evaluate g "+a -b a +b".toList .findAny { tag := some ['n'] } 1
    let changes := changesOf e.log
    Query.isDegenerate "+a -b a +b".toList 1 = false ∧
      IgnoreSet.hasColumns { tag := some ['n'] } = false ∧ g.rows.length < 2 ^ 31 ∧
      changes = [(⟨.reveal, ['a']⟩, 2), (⟨.hide, ['b']⟩, 1), (⟨.narrow, ['a']⟩, 0),
        (⟨.reveal, ['b']⟩, 1)] ∧
      gained changes - lost changes = e.summary.visibleRows ∧
      gained (changes.take 2) - lost (changes.take 2) ≤ g.rows.length := by
  intro g e changes
  have long : Query.isDegenerate "+a -b a +b".toList 1 = false := by decide
  have no_columns : IgnoreSet.hasColumns { tag := some ['n'] } = false := by decide
  have small : g.rows.length < 2 ^ 31 := by decide
  obtain ⟨_, _, _, at_most, exactly⟩ :=
    evaluate_changes_account g "+a -b a +b".toList .findAny { tag := some ['n'] } 1 long no_columns
  obtain ⟨_, total, partial_sums⟩ := exactly fun k _ => (at_most k).trans_lt small
  exact ⟨long, no_columns, small, by decide, total, (partial_sums 2).2.2⟩

/-! ## More rows than can be counted -/

/-- The query `a` shows rows that hold nothing else, however many, and counts them. -/
private theorem evaluate_replicate (n : Nat) :
    let g : Grid := ⟨List.replicate n { cells := [{ text := ['a'] }] }⟩
    let e := evaluate g ['a'] .findAny {} 1
    Grid.changedRows (g.reset false) e.grid = n ∧ e.summary.visibleRows = n ∧
      e.log = [.termApplied ⟨.reveal, ['a']⟩ (Int32.ofNat n)] := by
  intro g e
  let m := (Matcher.prepare ['a'] .findAny).1
  let r : Row := { cells := [{ text := ['a'] }], visible := false }
  have reset_eq : g.reset false = ⟨List.replicate n r⟩ := congrArg Grid.mk List.map_replicate
  have one_term : Query.terms ['a'] = [⟨.reveal, ['a']⟩] := by decide
  obtain ⟨grid_eq, log_eq⟩ :
      e.grid = ((g.reset false).applyTerms .findAny {} [⟨.reveal, ['a']⟩]).1 ∧
      e.log = ((g.reset false).applyTerms .findAny {} [⟨.reveal, ['a']⟩]).2 := by
    rw [← one_term]
    exact evaluate_of_terms g (by decide) (by decide)
  have shown : r.applySign .reveal {} m = { cells := [{ text := ['a'], highlighted := true }] } := by
    decide
  have counted : r.counts .reveal {} m = true := by decide
  have grid_is : e.grid =
      ⟨List.replicate n { cells := [{ text := ['a'], highlighted := true }] }⟩ := by
    rw [grid_eq, reset_eq, ← shown]
    exact congrArg Grid.mk List.map_replicate
  refine ⟨?_, ?_, ?_⟩
  · rw [grid_is, reset_eq, Grid.changedRows, List.zip_replicate', List.countP_replicate]
    rfl
  · have summary_eq : e.summary.visibleRows = e.grid.visibleCount :=
      congrArg Summary.visibleRows (evaluate_summary g ['a'] 1)
    rw [summary_eq, grid_is, Grid.visibleCount, List.countP_replicate]
    rfl
  · have count_eq : (g.reset false).countChanges .reveal {} m = Int32.ofNat n := by
      rw [reset_eq, Grid.countChanges_eq_ofNat, List.countP_replicate, if_pos counted]
    rw [log_eq, ← count_eq]
    rfl

/-- **Of 2^31 rows that are shown it is reported that fewer than none are.** The count that the
log reports is then not the number of rows that the term changed, the account is not the number
of visible rows, and it is negative. -/
theorem evaluate_changes_below_zero :
    let g : Grid := ⟨List.replicate (2 ^ 31) { cells := [{ text := ['a'] }] }⟩
    let e := evaluate g ['a'] .findAny {} 1
    let changes := changesOf e.log
    Query.isDegenerate ['a'] 1 = false ∧ IgnoreSet.hasColumns {} = false ∧
      Query.terms ['a'] = [⟨.reveal, ['a']⟩] ∧
      Grid.changedRows (g.reset false) e.grid = 2 ^ 31 ∧ e.summary.visibleRows = 2 ^ 31 ∧
      changes = [(⟨.reveal, ['a']⟩, -2 ^ 31)] ∧
      e.log.map LogLine.text =
        ["debug: term `+a` changed visibility of -2147483648 row(s)".toList] ∧
      gained changes - lost changes ≠ e.summary.visibleRows ∧
      ¬ 0 ≤ gained changes - lost changes := by
  intro g e changes
  obtain ⟨turned_around, visible, log_eq⟩ :
      Grid.changedRows (g.reset false) e.grid = 2 ^ 31 ∧ e.summary.visibleRows = 2 ^ 31 ∧
        e.log = [.termApplied ⟨.reveal, ['a']⟩ (Int32.ofNat (2 ^ 31))] := evaluate_replicate (2 ^ 31)
  have reported : changes = [(⟨.reveal, ['a']⟩, -2 ^ 31)] := by
    show changesOf e.log = _
    rw [log_eq]
    decide
  have account : gained changes - lost changes = -2 ^ 31 := by
    rw [reported]
    decide
  refine ⟨by decide, by decide, by decide, turned_around, visible, reported, ?_, ?_, ?_⟩
  · rw [log_eq]
    decide
  · rw [account, visible]
    decide
  · rw [account]
    decide

end

end GridFilter
