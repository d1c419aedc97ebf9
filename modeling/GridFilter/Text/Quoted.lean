/-
Texts in quotation marks, for messages.

Quotation marks, backslashes and four control characters get a backslash. What
cannot be seen, or would change how its neighbour looks, is written by its
number. All else stands as it is, so an apostrophe is not escaped.
-/
import GridFilter.Text.Basic
import GridFilter.Unicode.Property
import GridFilter.Unicode.VersionTable

set_option autoImplicit false

namespace GridFilter.Text

open GridFilter.Unicode

/-- Code points without a shape of their own: controls, formats, what is not
assigned or private, and separators. -/
def shapeless : InversionList :=
  categories.select fun k => (categoryCodes[k]?).any
    ["Cc", "Cf", "Cn", "Co", "Cs", "Zl", "Zp", "Zs"].contains

/-- Marks that join the character before them. -/
def joiningMarks : InversionList := (binarySet? "graphemeextend").getD ⟨#[]⟩

/-- Code points that take no place where they are not understood, such as fillers. -/
def ignorable : InversionList := (binarySet? "defaultignorablecodepoint").getD ⟨#[]⟩

/-- Whether a character joins the one before it. The two halfwidth sound marks are
counted among the marks and stand by themselves all the same. -/
def isJoining (c : Char) : Bool :=
  c != '\uFF9E' && c != '\uFF9F' && joiningMarks.containsAfter joiningChanges c.toNat

/-- Whether a character is written as it is. -/
def isShown (c : Char) : Bool :=
  if c.toNat < 128 then ' ' ≤ c && c ≤ '~'
  else
    (!shapeless.contains c.toNat || assignedLater.contains c.toNat) &&
      !isJoining c && !ignorable.contains c.toNat

/-- A character as it is written between quotation marks. -/
def quoteChar (c : Char) : Text :=
  match c with
  | '"' => ['\\', '"']
  | '\\' => ['\\', '\\']
  | '\t' => ['\\', 't']
  | '\n' => ['\\', 'n']
  | '\r' => ['\\', 'r']
  | '\x00' => ['\\', '0']
  | c => if isShown c then [c] else '\\' :: 'u' :: '\x7b' :: (Nat.toDigits 16 c.toNat ++ ['\x7d'])

/-- A text in quotation marks. -/
def quote (t : Text) : Text := '"' :: (t.flatMap quoteChar ++ ['"'])

end GridFilter.Text
