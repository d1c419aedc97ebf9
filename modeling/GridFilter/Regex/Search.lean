/-
Searching a text for a match.

The text is read once. At every place the search keeps marks on the expression:
a mark on a character class says that some attempt has just consumed a character
there. Attempts that would go on in the same way share their marks, so the work
at one place is bounded by the size of the expression, and no expression can
make the search go back.

Two questions are asked at each place, and both are answered by recursion over
the expression:

* `exits`: can an attempt leave the expression here, having entered it earlier
  (as the marks say) or entering it now?
* `advance`: which marks are there after the next character?

Repetition with counts keeps the marks of each round apart, in a list as long as
the latest round that is under way. Everything else is bookkeeping.
-/
import GridFilter.Text.Basic
import GridFilter.Regex.Basic

set_option autoImplicit false

namespace GridFilter.Regex

/-! ## Marks -/

/-- The marks on an expression; their shape follows the expression's. -/
inductive Marks where
  /-- No mark at all. -/
  | idle
  /-- On a character class: a character was just consumed. -/
  | hit
  /-- On the two parts of an expression. -/
  | both (a b : Marks)
  /-- On the rounds of a counted repetition, first round first. -/
  | rounds (ms : List Marks)

namespace Marks

/-- Whether there is no mark at all. -/
def isIdle : Marks → Bool
  | idle => true
  | _ => false

/-- Marks on two parts, with "none" said in one way only. -/
def pair (a b : Marks) : Marks :=
  if a.isIdle && b.isIdle then idle else both a b

/-- The marks on the first part. -/
def first : Marks → Marks
  | both a _ => a
  | _ => idle

/-- The marks on the second part. -/
def second : Marks → Marks
  | both _ b => b
  | _ => idle

/-- The marks round by round. -/
def toRounds : Marks → List Marks
  | rounds ms => ms
  | _ => []

/-- Marks on rounds, with "none" said in one way only. -/
def ofRounds : List Marks → Marks
  | [] => idle
  | ms => rounds ms

/-- Puts a round in front of later ones; a last round without marks is left out. -/
def consRound (m : Marks) (ms : List Marks) : List Marks :=
  if m.isIdle && ms.isEmpty then [] else m :: ms

end Marks

/-! ## The two questions -/

/-- Whether a counted repetition can be left here. `out` answers for one round;
the repetition may stop when no more rounds are due, and goes on to a further
round wherever the one before can be left. -/
def exitsRounds (out : Bool → Marks → Bool) : Nat → Nat → Bool → List Marks → Bool
  | _, 0, enter, _ => enter
  -- No later round is under way, so only an attempt that enters now can go on.
  | lo, hi + 1, enter, [] =>
    enter && (lo == 0 || exitsRounds out (lo - 1) hi (out true .idle) [])
  | lo, hi + 1, enter, m :: ms =>
    (lo == 0 && enter) || exitsRounds out (lo - 1) hi (out enter m) ms

/-- The marks on the rounds after the next character: a round is entered where
the one before it can be left. -/
def advanceRounds (out : Bool → Marks → Bool) (adv : Bool → Marks → Marks) :
    Nat → Bool → List Marks → List Marks
  | 0, _, _ => []
  | hi + 1, enter, [] =>
    if enter then
      Marks.consRound (adv true .idle) (advanceRounds out adv hi (out true .idle) [])
    else []
  | hi + 1, enter, m :: ms =>
    Marks.consRound (adv enter m) (advanceRounds out adv hi (out enter m) ms)

/-- Whether the expression can be left at this place, with the given marks and,
if `enter`, also by an attempt that enters it here. -/
def exits (s : Spot) : Regex → Bool → Marks → Bool
  | r, enter, m =>
    if !enter && m.isIdle then false
    else match r with
      | .empty => enter
      | .chars _ => !m.isIdle
      | .assert a => enter && a.holds s
      | .seq p q => exits s q (exits s p enter m.first) m.second
      | .alt p q => exits s p enter m.first || exits s q enter m.second
      | .plus p => exits s p enter m
      | .times p lo hi => exitsRounds (exits s p) lo hi enter m.toRounds

/-- The marks after the character that follows this place. -/
def advance (s : Spot) : Regex → Bool → Marks → Marks
  | r, enter, m =>
    if !enter && m.isIdle then .idle
    else match r with
      | .empty => .idle
      | .chars c => if enter && s.after.any c.contains then .hit else .idle
      | .assert _ => .idle
      | .seq p q =>
        .pair (advance s p enter m.first)
          (advance s q (exits s p enter m.first) m.second)
      | .alt p q => .pair (advance s p enter m.first) (advance s q enter m.second)
      -- A new round begins where the repetition is entered and where a round ends.
      | .plus p => advance s p (enter || exits s p false m) m
      | .times p _ hi =>
        .ofRounds (advanceRounds (exits s p) (advance s p) hi enter m.toRounds)

/-! ## The search -/

/-- Whether an attempt that is under way, or one that starts here or later, comes
to a match in the rest of the text. -/
def searchFrom (r : Regex) (before : Option Char) (m : Marks) : Text → Bool
  | [] => exits ⟨before, none⟩ r true m
  | c :: rest =>
    exits ⟨before, some c⟩ r true m ||
      searchFrom r (some c) (advance ⟨before, some c⟩ r true m) rest

/-- Whether some part of the text matches the expression. -/
def isMatch (r : Regex) (t : Text) : Bool := searchFrom r none .idle t

end GridFilter.Regex
