/-
The lower-case form of a text.

Every character is mapped on its own, with two exceptions. The dotted capital I
becomes two characters, an i and a combining dot. The capital sigma looks around:
at the end of a word it becomes `ς` and elsewhere `σ`, where "end of a word" means
that a cased letter stands before it and none after it, not counting characters
that case passes over, such as apostrophes and combining marks.

So lower-casing is not a map over characters, and the lower-case form of a text
need not contain that of each of its parts.
-/
import GridFilter.Text.Basic
import GridFilter.Unicode.Case
import GridFilter.Unicode.VersionTable
import GridFilter.Unicode.Property

set_option autoImplicit false

namespace GridFilter.Text

open GridFilter.Unicode

/-- The characters with upper-case or lower-case form. -/
def casedCharacters : InversionList := (binarySet? "cased").getD ⟨#[]⟩

/-- The characters that case passes over. -/
def caseIgnorableCharacters : InversionList := (binarySet? "caseignorable").getD ⟨#[]⟩

/-- Whether a character has case. -/
def isCased (c : Char) : Bool :=
  if c.toNat < 128 then c.isAlpha
  else casedCharacters.containsAfter casedChanges c.toNat

/-- Whether case passes over a character. -/
def isCaseIgnorable (c : Char) : Bool :=
  if c.toNat < 128 then c == '\'' || c == '.' || c == ':' || c == '^' || c == '\x60'
  else caseIgnorableCharacters.containsAfter caseIgnorableChanges c.toNat

/-- Whether the first character that case does not pass over has case. -/
def meetsCased (t : Text) : Bool :=
  (t.find? fun c => !isCaseIgnorable c).any isCased

/-- The lower-case form of a capital sigma between two texts, the first of them
reversed. -/
def lowerSigma (beforeReversed after : Text) : Char :=
  if meetsCased beforeReversed && !meetsCased after then 'ς' else 'σ'

/-- The lower-case form of a character wherever it stands. -/
def lowerChar (c : Char) : Text :=
  if c == '\u0130' then ['i', '\u0307'] else [lowerLetter c]

/-- The lower-case form of a text. -/
def lowercase (t : Text) : Text :=
  t.zipIdx.flatMap fun (c, i) =>
    if c == 'Σ' then [lowerSigma (t.take i).reverse (t.drop (i + 1))] else lowerChar c

end GridFilter.Text
