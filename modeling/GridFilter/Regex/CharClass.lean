/-
Classes of characters, as expressions.

A class is kept as it was put together, and membership is decided by walking
down the expression. The alternative, a sorted list of ranges, would make every
union and complement a merge; here they are one line each, and the two rules
that need care are visible as constructors: a class may be closed under case
before it is complemented, and never the other way round.
-/
import GridFilter.Unicode.Case

set_option autoImplicit false

namespace GridFilter.Regex

open GridFilter.Unicode

/-- A class of characters. -/
inductive CharClass where
  /-- No character. -/
  | nothing
  /-- The characters from `lo` to `hi`, both included. -/
  | range (lo hi : Char)
  /-- The characters of a table. -/
  | table (members : InversionList)
  | union (a b : CharClass)
  | inter (a b : CharClass)
  /-- The characters in exactly one of the two. -/
  | symmDiff (a b : CharClass)
  | compl (a : CharClass)
  /-- The characters that differ from one of `a` in case only; unless `wide`, in
  the case of an ASCII letter. -/
  | anyCase (wide : Bool) (a : CharClass)

namespace CharClass

/-- The characters that differ from `c` only in case, under a wide or a narrow
notion of case. -/
def variants (wide : Bool) (c : Char) : List Char :=
  if wide then caseVariants c
  else if c.isUpper then [c.toLower]
  else if c.isLower then [c.toUpper]
  else []

/-- Whether a class holds a character. -/
def contains : CharClass → Char → Bool
  | nothing, _ => false
  | range lo hi, c => lo ≤ c && c ≤ hi
  | table members, c => members.contains c.toNat
  | union a b, c => a.contains c || b.contains c
  | inter a b, c => a.contains c && b.contains c
  | symmDiff a b, c => a.contains c != b.contains c
  | compl a, c => !a.contains c
  | anyCase wide a, c => a.contains c || (variants wide c).any a.contains

/-- The class of one character. -/
def single (c : Char) : CharClass := range c c

/-- All characters. -/
def anything : CharClass := compl nothing

/-- The class of the characters in a list of ranges. -/
def ofRanges (ranges : List (Char × Char)) : CharClass :=
  ranges.foldr (fun (lo, hi) rest => union (range lo hi) rest) nothing

/-- Complements the class if `negated`. -/
def negateIf (negated : Bool) (a : CharClass) : CharClass :=
  if negated then compl a else a

end CharClass

end GridFilter.Regex
