/-
The flags that change how a pattern is read.

A flag is in force from where it is written to the end of its group. Two letters
that select which of several matches is preferred are accepted and change
nothing, since only the existence of a match is ever asked for.
-/
import GridFilter.Text.Basic

set_option autoImplicit false

namespace GridFilter.Regex

/-- The reading of a pattern. -/
structure Flags where
  /-- Letters match letters that differ in case only. -/
  ignoreCase : Bool := false
  /-- `^` and `$` match at the ends of lines, too. -/
  multiLine : Bool := false
  /-- `.` matches line feeds, too. -/
  dotAll : Bool := false
  /-- Blanks and comments in the pattern are skipped. -/
  spaced : Bool := false
  /-- Carriage returns end lines as well. -/
  crlf : Bool := false
  /-- Classes, words and case go beyond ASCII. -/
  wide : Bool := true
  deriving DecidableEq, Repr

namespace Flags

/-- Switches the flag with the given letter on or off; `none` for a letter that
names no flag. -/
def set? (f : Flags) (letter : Char) (on : Bool) : Option Flags :=
  match letter with
  | 'i' => some { f with ignoreCase := on }
  | 'm' => some { f with multiLine := on }
  | 's' => some { f with dotAll := on }
  | 'x' => some { f with spaced := on }
  | 'R' => some { f with crlf := on }
  | 'u' => some { f with wide := on }
  | 'U' => some f
  | _ => none

/-- Drops blanks and comments in front; a comment runs from `#` to the end of
its line. -/
def dropBlanksAndComments (inComment : Bool) : Text → Text
  | [] => []
  | c :: rest =>
    if inComment then dropBlanksAndComments (c != '\n') rest
    else if Text.isBlank c then dropBlanksAndComments false rest
    else if c == '#' then dropBlanksAndComments true rest
    else c :: rest

/-- Drops what the flags say is to be skipped in front of a pattern. -/
def skip (f : Flags) (t : Text) : Text :=
  if f.spaced then dropBlanksAndComments false t else t

/-- Like `skip`, where something has to follow. -/
def skipTo? (f : Flags) (t : Text) : Option Text :=
  match f.skip t with
  | [] => none
  | t => some t

/-- The next character of a class that counts for telling a range from a hyphen:
blanks are passed over, and so is one `#`. -/
def peek? (f : Flags) (t : Text) : Option Char :=
  if f.spaced then
    match t.dropWhile Text.isBlank with
    | '#' :: rest => (rest.dropWhile Text.isBlank).head?
    | rest => rest.head?
  else t.head?

end Flags

end GridFilter.Regex
