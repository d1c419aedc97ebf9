/-
Letters that differ in case only.

Two letters belong together when simple case folding sends them to one letter.
Most groups have two members; `k`, `K` and the Kelvin sign are three, `σ`, `ς`
and `Σ` are three, and `İ` and `ı` belong to nobody but themselves.

ASCII letters are answered without the tables: they are nearly all that is ever
asked for, and it keeps the answer short to evaluate.
-/
import GridFilter.Unicode.CaseTable
import GridFilter.Unicode.VersionTable

set_option autoImplicit false

namespace GridFilter.Unicode

/-- The other letters of an ASCII letter's group. Only `k` and `s` have one
outside ASCII: the Kelvin sign and the long s. -/
def asciiCaseVariants (c : Char) : List Char :=
  if c.isUpper then
    c.toLower :: (if c = 'K' then ['\u212A'] else if c = 'S' then ['\u017F'] else [])
  else if c.isLower then
    c.toUpper :: (if c = 'k' then ['\u212A'] else if c = 's' then ['\u017F'] else [])
  else []

/-- The letter that a whole group is folded to. -/
def simpleFold (n : Nat) : Nat :=
  (foldings.findSome? (·.image? n)).getD n

/-- The characters that differ from `c` in case only. -/
def caseVariants (c : Char) : List Char :=
  if c.toNat < 128 then asciiCaseVariants c
  else
    let folded := simpleFold c.toNat
    let group := folded :: foldings.filterMap (·.source? folded)
    (group.map Char.ofNat).filter (· != c)

/-- The letters that differ from another one in case only, in ascending order. -/
def casedLetters : List Nat :=
  ((foldings.flatMap CaseRun.letters).mergeSort (· ≤ ·)).eraseReps

/-- The lower-case form of a character on its own: itself, unless the table
names another letter. -/
def lowerLetter (c : Char) : Char :=
  if c.toNat < 128 then c.toLower
  else Char.ofNat (((lowerings ++ loweringsAdded).findSome? (·.image? c.toNat)).getD c.toNat)

end GridFilter.Unicode
