/-
Packed tables over the code points.

A property of characters is a set of code points with many runs, and a
classification (category, script, age) is a partition of them. Both are written
in the table modules as strings of decimal counts: a literal of a few kilobytes
costs the compiler nothing, whereas the same table as a list of pairs would be
elaborated term by term. This module unpacks the counts into ascending arrays
of bounds, and answers membership by halving.

Code points are natural numbers here. A bound is the first code point of a new
run, so "how many bounds are at most `n`" says which run `n` lies in, and that
one question serves sets and partitions alike.
-/

set_option autoImplicit false

namespace GridFilter.Unicode

/-- The decimal numbers of a packed table, in order. Whatever is no digit
separates them. -/
def unpackNumbers (s : String) : List Nat :=
  let close (cur : Option Nat) (done : List Nat) : List Nat :=
    match cur with
    | some n => n :: done
    | none => done
  let (cur, done) := s.toList.foldl (fun (cur, done) c =>
    if c.isDigit then (some (cur.getD 0 * 10 + (c.toNat - '0'.toNat)), done)
    else (none, close cur done)) (none, [])
  (close cur done).reverse

/-- How many entries of the ascending array `bounds` are at most `n`. Thirty-two
halvings are enough for any array of code points. -/
def countUpTo (bounds : Array Nat) (n : Nat) : Nat :=
  go 32 0 bounds.size
where
  go : Nat → Nat → Nat → Nat
    | 0, lo, _ => lo
    | k + 1, lo, hi =>
      if lo < hi then
        let mid := (lo + hi) / 2
        if bounds.getD mid 0 ≤ n then go k (mid + 1) hi else go k lo mid
      else lo

/-- A set of code points by the ascending points where membership changes, the
first of them from "outside" to "inside". -/
structure InversionList where
  bounds : Array Nat

namespace InversionList

/-- Reads the counts of code points outside and inside the set, turn by turn. -/
def ofPacked (s : String) : InversionList :=
  let (_, bounds) := (unpackNumbers s).foldl
    (fun (at_, bounds) n => (at_ + n, bounds.push (at_ + n))) (0, (#[] : Array Nat))
  ⟨bounds⟩

/-- A code point is inside when an odd number of changes is behind it. -/
def contains (t : InversionList) (n : Nat) : Bool :=
  countUpTo t.bounds n % 2 == 1

/-- Whether a code point is inside after those in `changes` have changed sides. -/
def containsAfter (t changes : InversionList) (n : Nat) : Bool :=
  t.contains n != changes.contains n

end InversionList

/-- A classification of all code points: run `i` begins at `starts[i]` and has
the class `classes[i]`. -/
structure Partition where
  starts : Array Nat
  classes : Array Nat

namespace Partition

/-- Reads pairs of a run's length and its class, from code point 0 on. -/
def ofPacked (s : String) : Partition :=
  go 0 ⟨#[], #[]⟩ (unpackNumbers s)
where
  go (start : Nat) (p : Partition) : List Nat → Partition
    | len :: cls :: rest =>
      go (start + len) ⟨p.starts.push start, p.classes.push cls⟩ rest
    | _ => p

/-- The class of a code point. -/
def classOf (p : Partition) (n : Nat) : Nat :=
  p.classes.getD (countUpTo p.starts n - 1) 0

/-- The code points whose class satisfies `keep`. Bounds are recorded only
where the answer changes, so neighbouring runs that are both kept are one run
of the result. -/
def select (p : Partition) (keep : Nat → Bool) : InversionList :=
  let (_, bounds) := (p.starts.zip p.classes).foldl (fun (inside, bounds) (start, cls) =>
    if keep cls == inside then (inside, bounds)
    else (keep cls, bounds.push start)) (false, (#[] : Array Nat))
  ⟨bounds⟩

end Partition

/-- A stretch of letters whose case mapping moves all of them by one distance:
every `step`-th code point from `first` to `last`, the first of them going to
`image`. -/
structure CaseRun where
  first : Nat
  last : Nat
  step : Nat
  image : Nat

namespace CaseRun

/-- Reads runs of four numbers each. -/
def ofPacked (s : String) : List CaseRun :=
  go (unpackNumbers s)
where
  go : List Nat → List CaseRun
    | first :: last :: step :: image :: rest => ⟨first, last, step, image⟩ :: go rest
    | _ => []

/-- The letters of the run and the letters that it sends them to. -/
def letters (r : CaseRun) : List Nat :=
  (List.range ((r.last - r.first) / r.step + 1)).flatMap fun k =>
    [r.first + k * r.step, r.image + k * r.step]

/-- Where the run sends `n`, when `n` belongs to it. -/
def image? (r : CaseRun) (n : Nat) : Option Nat :=
  if r.first ≤ n ∧ n ≤ r.last ∧ (n - r.first) % r.step = 0 then
    some (r.image + (n - r.first))
  else none

/-- The letter that the run sends to `n`, if it has one. -/
def source? (r : CaseRun) (n : Nat) : Option Nat :=
  if r.image ≤ n ∧ n - r.image ≤ r.last - r.first ∧ (n - r.image) % r.step = 0 then
    some (r.first + (n - r.image))
  else none

end CaseRun

end GridFilter.Unicode
