/-
Regular expressions: what they are made of.

An expression is one of the seven forms below. Groups, greed and lazy operators
leave no trace here: they say which match is reported and what is captured, and
the only question ever asked of an expression is whether a text has a match at
all.

Counted repetition is a form of its own and is not unfolded, so an expression is
not larger than its counts make necessary.
-/
import GridFilter.Regex.CharClass
import GridFilter.Unicode.PropertyTable

set_option autoImplicit false

namespace GridFilter

open Regex (CharClass)

namespace Regex

/-! ## Assertions about a place -/

/-- A place in a text, by the characters on its two sides. -/
structure Spot where
  before : Option Char
  after : Option Char

/-- How a place may lie with respect to words. -/
inductive WordEdge where
  /-- A word begins or ends here. -/
  | boundary
  /-- No word begins or ends here. -/
  | noBoundary
  | start
  | stop
  /-- No word character stands before the place. -/
  | startHalf
  /-- No word character stands after the place. -/
  | stopHalf
  deriving DecidableEq

/-- What can be asserted about a place without consuming anything. -/
inductive Assertion where
  | textStart
  | textEnd
  | lineStart
  | lineEnd
  /-- A line begins here, where a carriage return with its line feed, or either
  of them alone, ends a line. -/
  | lineStartCrlf
  /-- A line ends here, under the same rule. -/
  | lineEndCrlf
  /-- A fact about words; unless `wide`, words of ASCII characters. -/
  | word (wide : Bool) (edge : WordEdge)
  deriving DecidableEq

/-- Letters, digits and the underscore, of ASCII. -/
def isAsciiWordChar (c : Char) : Bool := c.isAlphanum || c == '_'

/-- Whether a character belongs to words. -/
def isWordChar (wide : Bool) (c : Char) : Bool :=
  if c.toNat < 128 then isAsciiWordChar c
  else wide && Unicode.wordCharacters.contains c.toNat

/-- Whether an assertion is true of a place. -/
def Assertion.holds (s : Spot) : Assertion → Bool
  | textStart => s.before.isNone
  | textEnd => s.after.isNone
  | lineStart => s.before.all (· == '\n')
  | lineEnd => s.after.all (· == '\n')
  | lineStartCrlf =>
    s.before.all fun c => c == '\n' || (c == '\r' && s.after != some '\n')
  | lineEndCrlf =>
    s.after.all fun c => c == '\r' || (c == '\n' && s.before != some '\r')
  | word wide edge =>
    let before := s.before.any (isWordChar wide)
    let after := s.after.any (isWordChar wide)
    match edge with
    | .boundary => before != after
    | .noBoundary => before == after
    | .start => !before && after
    | .stop => before && !after
    | .startHalf => !before
    | .stopHalf => !after

end Regex

/-! ## Expressions -/

/-- A regular expression. -/
inductive Regex where
  /-- Matches the empty text. -/
  | empty
  /-- Matches one character of a class. -/
  | chars (c : CharClass)
  /-- Matches the empty text where the assertion is true. -/
  | assert (a : Regex.Assertion)
  | seq (r s : Regex)
  | alt (r s : Regex)
  /-- Once or more often. -/
  | plus (r : Regex)
  /-- At least `lo` and at most `hi` times. -/
  | times (r : Regex) (lo hi : Nat)

namespace Regex

/-- Whether an expression can match nothing but the empty text, as far as its
form shows. -/
def isZeroWidth : Regex → Bool
  | empty => true
  | chars _ => false
  | assert _ => true
  | seq r s => r.isZeroWidth && s.isZeroWidth
  | alt r s => r.isZeroWidth && s.isZeroWidth
  | plus r => r.isZeroWidth
  | times r _ hi => hi == 0 || r.isZeroWidth

/-- Repetition with an optional upper bound. Repeating what has no width more
than once adds nothing, so its counts are cut down to one. -/
def repeated (r : Regex) (lo : Nat) (hi : Option Nat) : Regex :=
  if r.isZeroWidth then times r (min lo 1) (min (hi.getD 1) 1)
  else match hi with
    | some hi => times r lo hi
    | none =>
      match lo with
      | 0 => alt empty (plus r)
      -- The last of the rounds that are due begins those without a bound.
      | lo + 1 => if lo = 0 then plus r else seq (times r lo lo) (plus r)

end Regex

end GridFilter
