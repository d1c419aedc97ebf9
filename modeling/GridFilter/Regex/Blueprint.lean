/-
What a matching machine is built from.

A blueprint is a pattern in the form in which machines are built: literal texts in
one piece, classes as runs, no alternative that is itself a choice, no step that is
itself a sequence. The same pattern can be written in many ways, and what a machine
costs should not depend on more of that than necessary, so blueprints are only put
together by the functions here, which simplify as they go:

* `sequence` joins neighbouring literal texts and leaves out what is empty;
* `choice` makes one class of alternatives that are all single characters, or all
  classes, and takes out what all alternatives begin with;
* `repeated` cuts down the counts of what matches nothing but the empty text.
-/
import GridFilter.Text.Basic
import GridFilter.Regex.Basic
import GridFilter.Regex.ByteForm

set_option autoImplicit false

namespace GridFilter.Regex

/-- What a machine is built from. -/
inductive Blueprint where
  | empty
  /-- A text, character by character. -/
  | literal (t : Text)
  /-- One character out of the runs. -/
  | chars (runs : List CharRun)
  | place (a : Assertion)
  /-- Something whose match is remembered. -/
  | group (p : Blueprint)
  /-- At least `lo` times, and at most `hi` times if that is given. -/
  | times (p : Blueprint) (lo : Nat) (hi : Option Nat)
  /-- One after the other; the first is no sequence. -/
  | seq (p q : Blueprint)
  /-- One or the other; the first is no choice. -/
  | alt (p q : Blueprint)

namespace Blueprint

/-! ## Parts -/

/-- The steps of a sequence. -/
def steps : Blueprint → List Blueprint
  | seq p q => p :: q.steps
  | p => [p]

/-- The alternatives of a choice. -/
def branches : Blueprint → List Blueprint
  | alt p q => p :: q.branches
  | p => [p]

/-- Whether a blueprint is a literal text. -/
def isLiteral : Blueprint → Bool
  | literal _ => true
  | _ => false

/-- The number of forms that a blueprint is made of. -/
def size : Blueprint → Nat
  | group p => p.size + 1
  | times p _ _ => p.size + 1
  | seq p q => p.size + q.size + 1
  | alt p q => p.size + q.size + 1
  | _ => 1

/-- Whether two blueprints at different places of a pattern are the same. Groups
never are, since each is remembered by itself. -/
def same : Blueprint → Blueprint → Bool
  | empty, empty => true
  | literal t, literal u => t == u
  | chars xs, chars ys => xs == ys
  | place a, place b => a == b
  | times p lo hi, times q lo' hi' => p.same q && lo == lo' && hi == hi'
  | seq p q, seq p' q' => p.same p' && q.same q'
  | alt p q, alt p' q' => p.same p' && q.same q'
  | _, _ => false

/-! ## Lengths of matches -/

/-- The number of bytes of a text. -/
def byteLength (t : Text) : Nat :=
  t.foldl (fun n c => n + ByteForm.byteCount c.toNat) 0

/-- The fewest bytes of a match; `none` where the class without characters takes
part. -/
def minLength : Blueprint → Option Nat
  | empty => some 0
  | literal t => some (byteLength t)
  | chars runs => runs.head?.map fun r => ByteForm.byteCount r.first
  | place _ => some 0
  | group p => p.minLength
  | times p lo _ => p.minLength.map (lo * ·)
  | seq p q => do return (← p.minLength) + (← q.minLength)
  | alt p q => do return min (← p.minLength) (← q.minLength)

/-- The most bytes of a match; `none` where there is no bound, or the class without
characters takes part. -/
def maxLength : Blueprint → Option Nat
  | empty => some 0
  | literal t => some (byteLength t)
  | chars runs => runs.getLast?.map fun r => ByteForm.byteCount r.last
  | place _ => some 0
  | group p => p.maxLength
  | times p _ hi => do return (← hi) * (← p.maxLength)
  | seq p q => do return (← p.maxLength) + (← q.maxLength)
  | alt p q => do return max (← p.maxLength) (← q.maxLength)

/-! ## Putting blueprints together -/

/-- The blueprint of a class; a class of one character is a text. -/
def ofRuns : List CharRun → Blueprint
  | [r] => if r.first = r.last then literal [Char.ofNat r.first] else chars [r]
  | runs => chars runs

/-- Puts a step in front of others. -/
def consStep : Blueprint → List Blueprint → List Blueprint
  | empty, ps => ps
  | literal t, literal u :: ps => literal (t ++ u) :: ps
  | p, ps => p :: ps

/-- One after the other. -/
def sequence (ps : List Blueprint) : Blueprint :=
  chain ((ps.flatMap steps).foldr consStep [])
where
  chain : List Blueprint → Blueprint
    | [] => empty
    | [p] => p
    | p :: ps => seq p (chain ps)

/-- The runs of an alternative that is a single character. -/
def singleRun? : Blueprint → Option (List CharRun)
  | literal [c] => some [⟨c.toNat, c.toNat⟩]
  | _ => none

/-- The runs of an alternative that is a class. -/
def classRuns? : Blueprint → Option (List CharRun)
  | chars runs => some runs
  | _ => none

/-- How many steps of a sequence also begin another one. -/
def commonLength : List Blueprint → List Blueprint → Nat
  | p :: ps, q :: qs => if p.same q then commonLength ps qs + 1 else 0
  | _, _ => 0

/-- Chooses among alternatives none of which is a choice. Taking out what all of
them begin with leaves a smaller choice, so there are at most `fuel` rounds. -/
def chooseAmong : Nat → List Blueprint → Blueprint
  | 0, ps => chain ps
  | _, [] => chars []
  | _, [p] => p
  | fuel + 1, p :: ps =>
    match (p :: ps).mapM singleRun? <|> (p :: ps).mapM classRuns? with
    | some runs => ofRuns (CharRun.union runs)
    | none =>
      let common := (ps.map fun q => commonLength p.steps q.steps).foldl min p.steps.length
      if common = 0 || (p :: ps).any (·.steps.length < 2) then chain (p :: ps)
      else
        let rests := (p :: ps).map fun q => sequence (q.steps.drop common)
        sequence (p.steps.take common ++ [chooseAmong fuel (rests.flatMap branches)])
where
  chain : List Blueprint → Blueprint
    | [] => chars []
    | [p] => p
    | p :: ps => alt p (chain ps)

/-- One of several. -/
def choice (ps : List Blueprint) : Blueprint :=
  let ps := ps.flatMap branches
  chooseAmong (ps.foldl (fun n p => n + p.size) 0) ps

/-- At least `lo` times and, if `hi` is given, at most `hi` times. Repeating what has
no length more than once adds nothing. -/
def repeated (p : Blueprint) (lo : Nat) (hi : Option Nat) : Blueprint :=
  let (lo, hi) := if p.maxLength == some 0 then (min lo 1, some (min (hi.getD 1) 1)) else (lo, hi)
  if hi == some 0 then empty
  else if lo == 1 && hi == some 1 then p
  else times p lo hi

end Blueprint

end GridFilter.Regex
