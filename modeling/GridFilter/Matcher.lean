/-
Fragments made ready for matching.

A fragment that is written as a regular-expression literal, `/pattern/flags`, is
one in every mode. Any other fragment, and a literal whose flags or pattern are
not acceptable, is read as the match mode says, slashes included. Making a
matcher ready cannot fail: a fragment that is no regular expression is looked for
as it stands.

Phrases are compared in lower case, which is not the same as ignoring case in a
regular expression: the one maps both texts, the other groups letters.
-/
import GridFilter.Log
import GridFilter.MatchMode
import GridFilter.Regex.Compile
import GridFilter.Regex.Search
import GridFilter.Text.Lowercase

set_option autoImplicit false

namespace GridFilter

/-! ## Regular-expression literals -/

namespace RegexLiteral

/-- The pattern and the flags of a literal: a slash, a pattern that is not empty,
a slash, and letters only. The pattern may hold slashes itself. -/
def split? (fragment : Text) : Option (Text × Text) :=
  match fragment with
  | '/' :: body =>
    (Text.splitLast? '/' body).filter fun (pattern, flags) =>
      !pattern.isEmpty && flags.all Char.isAlpha
  | _ => none

/-- What the letter of a flag does to the reading of the pattern. Some letters
have no effect on whether there is a match, and are accepted. -/
def withFlag? (f : Regex.Flags) (flag : Char) : Option Regex.Flags :=
  match flag with
  | 'i' => some { f with ignoreCase := true }
  | 'm' => some { f with multiLine := true }
  | 's' => some { f with dotAll := true }
  | 'x' => some { f with spaced := true }
  | 'u' => some { f with wide := true }
  -- Which match is preferred, and where a search goes on, makes no difference here.
  | 'U' | 'g' | 'y' => some f
  | _ => none

/-- Reads the flags of `fragment` one by one; the first that is repeated or
unknown is reported. -/
def readFlags (fragment : Text) (seen : List Char) (f : Regex.Flags) :
    Text → Except LogLine Regex.Flags
  | [] => .ok f
  | flag :: rest =>
    if seen.contains flag then .error (.flagRepeated fragment flag)
    else match withFlag? f flag with
      | some f => readFlags fragment (flag :: seen) f rest
      | none => .error (.flagUnsupported fragment flag)

/-- The expression of a fragment that is an acceptable literal, or the reason why
it is none. A fragment that does not even look like a literal needs no reason. -/
def compile (fragment : Text) : Except (Option LogLine) Regex :=
  match split? fragment with
  | none => .error none
  | some (pattern, flags) =>
    match readFlags fragment [] {} flags with
    | .error reason => .error (some reason)
    | .ok f =>
      match Regex.compile? pattern f with
      | some r => .ok r
      | none => .error (some (.literalRefused fragment))

end RegexLiteral

/-! ## Matchers -/

/-- A fragment made ready for matching. -/
inductive Matcher where
  /-- The expression is searched for. -/
  | regex (r : Regex)
  /-- The text in lower case holds `needle`. -/
  | substring (needle : Text)
  /-- The text in lower case holds one of the phrases. -/
  | anyOf (phrases : List Text)
  /-- The text in lower case holds all of the phrases. -/
  | allOf (phrases : List Text)
  /-- No text matches. -/
  | never

namespace Matcher

/-- The phrases of a fragment, in lower case. -/
def phrases (fragment : Text) : List Text := fragment.pieces.map Text.lowercase

/-- How a fragment is matched in a mode if it is no literal. -/
def ofMode (fragment : Text) (mode : MatchMode) : Matcher × List LogLine :=
  match mode with
  | .findFirst =>
    match Regex.compile? fragment { ignoreCase := true } with
    | some r => (regex r, [])
    | none => (substring fragment.lowercase, [.fragmentLiteral fragment])
  | .findAny => (if (phrases fragment).isEmpty then never else anyOf (phrases fragment), [])
  | .findAll => (if (phrases fragment).isEmpty then never else allOf (phrases fragment), [])

/-- Makes a fragment ready for matching. -/
def prepare (fragment : Text) (mode : MatchMode) : Matcher × List LogLine :=
  match RegexLiteral.compile fragment with
  | .ok r => (regex r, [])
  | .error reason =>
    let (m, lines) := ofMode fragment mode
    (m, reason.toList ++ lines)

/-- Whether a text matches. -/
def isMatch (m : Matcher) (t : Text) : Bool :=
  match m with
  | regex r => r.isMatch t
  | substring needle => t.lowercase.contains needle
  | anyOf phrases => let t := t.lowercase; phrases.any t.contains
  | allOf phrases => let t := t.lowercase; phrases.all t.contains
  | never => false

end Matcher

/-- Whether a text matches a fragment in a mode. -/
def matchesFragment (t fragment : Text) (mode : MatchMode) : Bool :=
  (Matcher.prepare fragment mode).1.isMatch t

end GridFilter
