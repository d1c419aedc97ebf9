/-
What one atom of a pattern stands for, and the escape sequences.

A backslash gives a meaning to the letter after it or takes the meaning away
from the sign after it. Every ASCII sign except `<` and `>` may be escaped;
letters and digits only where a meaning is laid down, so a sequence without one
is refused and never read as the letter itself. Back references do not exist.
-/
import GridFilter.Regex.Flags
import GridFilter.Regex.Basic
import GridFilter.Unicode.Property

set_option autoImplicit false

namespace GridFilter.Regex

open GridFilter.Unicode

/-! ## Atoms -/

/-- The three classes that have a letter of their own. -/
inductive LetterClass where
  | digit
  | space
  | word

/-- One atom of a pattern. -/
inductive Atom where
  /-- A character; `isByte` if it was written as a byte with two digits. -/
  | literal (c : Char) (isByte : Bool)
  | letterClass (k : LetterClass) (negated : Bool)
  /-- The characters with a named property. -/
  | property (members : InversionList) (negated : Bool)
  | assertion (a : Assertion)
  | dot

/-- The decimal digits. -/
def decimalDigits : InversionList :=
  categories.select fun k => categoryCodes[k]? == some "Nd"

/-- The members of a lettered class. -/
def LetterClass.toClass (wide : Bool) : LetterClass → CharClass
  | .digit => if wide then .table decimalDigits else .range '0' '9'
  | .space =>
    if wide then
      .ofRanges (Text.blankRanges.map fun (lo, hi) => (Char.ofNat lo, Char.ofNat hi))
    else .ofRanges [('\t', '\r'), (' ', ' ')]
  | .word =>
    if wide then .table wordCharacters
    else .ofRanges [('0', '9'), ('A', 'Z'), ('_', '_'), ('a', 'z')]

/-- Closes a class under case where the flags ask for it. -/
def Flags.fold (f : Flags) (a : CharClass) : CharClass :=
  if f.ignoreCase then .anyCase f.wide a else a

/-- Complements a class. Without wide classes the complement would hold pieces of
characters, so there it does not exist. -/
def Flags.negate? (f : Flags) (negated : Bool) (a : CharClass) : Option CharClass :=
  if negated then (if f.wide then some (.compl a) else none) else some a

/-- The class of an atom that stands for characters. A byte beyond ASCII is a
piece of a character and stands for none. -/
def Atom.toClass? (f : Flags) : Atom → Option CharClass
  | literal c isByte =>
    if isByte && !f.wide && 0x7F < c.toNat then none else some (f.fold (.single c))
  | letterClass k negated => f.negate? negated (k.toClass f.wide)
  | property members negated =>
    if f.wide then some (.negateIf negated (f.fold (.table members))) else none
  | assertion _ => none
  | dot =>
    if !f.wide then none
    else if f.dotAll then some .anything
    else if f.crlf then some (.compl (.union (.single '\n') (.single '\r')))
    else some (.compl (.single '\n'))

/-! ## Character numbers -/

/-- The value of a hexadecimal digit. -/
def hexDigit? (c : Char) : Option Nat :=
  if c.isDigit then some (c.toNat - '0'.toNat)
  else if 'a' ≤ c ∧ c ≤ 'f' then some (c.toNat - 'a'.toNat + 10)
  else if 'A' ≤ c ∧ c ≤ 'F' then some (c.toNat - 'A'.toNat + 10)
  else none

/-- The character with a number, if it is the number of one. -/
def charOfNumber? (n : Nat) : Option Char :=
  if n.isValidChar then some (Char.ofNat n) else none

/-- Reads exactly `count` hexadecimal digits. -/
def readHexDigits (f : Flags) : Nat → Nat → Text → Option (Nat × Text)
  | 0, value, t => some (value, t)
  | count + 1, value, t =>
    match t with
    | [] => none
    | c :: rest => do
      let d ← hexDigit? c
      readHexDigits f count (16 * value + d) (f.skip rest)

/-- Reads hexadecimal digits up to a closing brace; there has to be one. The
value stays `none` until a digit is seen. -/
def readBracedHex (f : Flags) (value : Option Nat) : Nat → Text → Option (Nat × Text)
  | 0, _ => none
  | fuel + 1, t =>
    match f.skip t with
    | [] => none
    | '}' :: rest => value.map fun n => (n, f.skip rest)
    | c :: rest => do
      let d ← hexDigit? c
      readBracedHex f (some (16 * value.getD 0 + d)) fuel rest

/-- Reads a character number: `digits` digits, or any number of them in braces. -/
def readCharNumber (f : Flags) (digits : Nat) (t : Text) : Option (Atom × Text) := do
  match ← f.skipTo? t with
  | '{' :: rest =>
    let (n, rest) ← readBracedHex f none (rest.length + 1) rest
    return (.literal (← charOfNumber? n) false, rest)
  | t =>
    let (n, rest) ← readHexDigits f digits 0 t
    return (.literal (← charOfNumber? n) (digits == 2), rest)

/-! ## Properties -/

/-- Cuts a text before the first occurrence of two characters. -/
def splitPair? (a b : Char) : Text → Option (Text × Text)
  | [] => none
  | [_] => none
  | c :: d :: rest =>
    if c == a && d == b then some ([], rest)
    else (splitPair? a b (d :: rest)).map fun (before, after) => (c :: before, after)

/-- The set that the text in braces names, and whether its complement is meant:
of the three signs between a classification and its value, `:` and `=` mean the
same and `!=` the opposite. -/
def propertySet? (name : Text) : Option (InversionList × Bool) :=
  let meant (negated : Bool) (members : InversionList) := (members, negated)
  match splitPair? '!' '=' name with
  | some (name, value) => (valuedSet? name value).map (meant true)
  | none => match Text.splitFirst? ':' name with
    | some (name, value) => (valuedSet? name value).map (meant false)
    | none => match Text.splitFirst? '=' name with
      | some (name, value) => (valuedSet? name value).map (meant false)
      | none => (namedSet? name).map (meant false)

/-- Reads up to a closing brace, leaving out what is to be skipped. -/
def readBracedName (f : Flags) : Nat → Text → Option (Text × Text)
  | 0, _ => none
  | fuel + 1, t =>
    match f.skip t with
    | [] => none
    | '}' :: rest => some ([], rest)
    | c :: rest => do
      let (name, rest) ← readBracedName f fuel rest
      return (c :: name, rest)

/-- Reads the name of a property: one letter, or a name in braces. -/
def readProperty (f : Flags) (negated : Bool) (t : Text) : Option (Atom × Text) := do
  match ← f.skipTo? t with
  | '{' :: rest =>
    let (name, rest) ← readBracedName f (rest.length + 1) rest
    let (members, opposite) ← propertySet? name
    return (.property members (negated != opposite), rest)
  | '\\' :: _ => none
  | c :: rest => return (.property (← namedSet? [c]) negated, rest)
  | [] => none

/-! ## Assertions about words -/

/-- The assertion that a name in braces stands for. -/
def wordEdge? : List Char → Option WordEdge
  | ['s', 't', 'a', 'r', 't'] => some .start
  | ['e', 'n', 'd'] => some .stop
  | ['s', 't', 'a', 'r', 't', '-', 'h', 'a', 'l', 'f'] => some .startHalf
  | ['e', 'n', 'd', '-', 'h', 'a', 'l', 'f'] => some .stopHalf
  | _ => none

/-- Letters and the hyphen make up the names of assertions. -/
def isEdgeNameChar (c : Char) : Bool := c.isAlpha || c == '-'

/-- Reads the name of an assertion and the characters after it. -/
def readEdgeName (f : Flags) : Nat → Text → Text × Text
  | 0, t => ([], t)
  | fuel + 1, t =>
    match t with
    | [] => ([], [])
    | c :: rest =>
      if isEdgeNameChar c then
        let (name, rest) := readEdgeName f fuel (f.skip rest)
        (c :: name, rest)
      else ([], c :: rest)

/-- Reads what may follow a word boundary: a brace that begins with a letter or
a hyphen names a special assertion, any other brace is left for the repetition
that it begins. -/
def readWordBoundary (f : Flags) (t : Text) : Option (Atom × Text) :=
  let plain := Atom.assertion (.word f.wide .boundary)
  match t with
  | '{' :: inner => do
    let inner ← f.skipTo? inner
    -- Anything but a name is the beginning of a repetition and is read as one later.
    if !inner.head?.any isEdgeNameChar then return (plain, t)
    match readEdgeName f inner.length inner with
    | (name, '}' :: rest) =>
      return (.assertion (.word f.wide (← wordEdge? name)), rest)
    | _ => none
  | t => some (plain, t)

/-! ## Escape sequences -/

/-- Whether a character may be escaped to stand for itself. -/
def isEscapable (c : Char) : Bool :=
  c.toNat < 128 && !c.isAlphanum && c != '<' && c != '>'

/-- Reads what follows a backslash. -/
def readEscape (f : Flags) : Text → Option (Atom × Text)
  | [] => none
  | c :: rest =>
    let literal (c : Char) := some (Atom.literal c false, rest)
    let edge (e : WordEdge) := some (Atom.assertion (.word f.wide e), rest)
    match c with
    | 'x' => readCharNumber f 2 rest
    | 'u' => readCharNumber f 4 rest
    | 'U' => readCharNumber f 8 rest
    | 'p' => readProperty f false rest
    | 'P' => readProperty f true rest
    | 'd' => some (.letterClass .digit false, rest)
    | 'D' => some (.letterClass .digit true, rest)
    | 's' => some (.letterClass .space false, rest)
    | 'S' => some (.letterClass .space true, rest)
    | 'w' => some (.letterClass .word false, rest)
    | 'W' => some (.letterClass .word true, rest)
    | 'a' => literal '\x07'
    | 'f' => literal '\x0C'
    | 't' => literal '\t'
    | 'n' => literal '\n'
    | 'r' => literal '\r'
    | 'v' => literal '\x0B'
    | 'A' => some (.assertion .textStart, rest)
    | 'z' => some (.assertion .textEnd, rest)
    | 'b' => readWordBoundary f rest
    | 'B' => edge .noBoundary
    | '<' => edge .start
    | '>' => edge .stop
    | c => if isEscapable c then literal c else none

end GridFilter.Regex
