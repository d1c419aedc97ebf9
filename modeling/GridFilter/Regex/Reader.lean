/-
Reading a pattern into an expression.

A pattern is read from left to right. What is open at a place is a stack of
groups; each holds the alternatives that are complete and the parts of the one
being read, so that closing a group, like reaching the end, only has to put
those together. Beside its expression every part carries its depth of nesting and
the blueprint of a machine for it, which the limits on patterns are about.

Nothing is repaired: a pattern that breaks a rule is refused as a whole, and the
caller falls back on another way of matching.
-/
import GridFilter.Regex.Bracket
import GridFilter.Regex.Blueprint

set_option autoImplicit false

namespace GridFilter.Regex

/-! ## Parts -/

/-- A piece of a pattern: its expression, what a machine for it is built from, how
deeply it nests, and whether a repetition sign may follow it. -/
structure Part where
  regex : Regex
  blueprint : Blueprint
  depth : Nat := 0
  repeatable : Bool := true

namespace Part

/-- What matches the empty text only. -/
def empty : Part := { regex := .empty, blueprint := .empty }

/-- A change of flags: it takes a place in the pattern and matches nothing. -/
def flagChange : Part := { empty with repeatable := false }

/-- One character of a class. -/
def chars (a : CharClass) (depth : Nat := 0) : Part :=
  { regex := .chars a, blueprint := .ofRuns a.runs, depth }

/-- A fact about a place. -/
def assertion (a : Assertion) : Part := { regex := .assert a, blueprint := .place a }

/-- The parts of an alternative, latest first, one after another. -/
def sequence : List Part → Part
  | [] => empty
  | [p] => p
  | p :: ps =>
    { regex := ps.foldl (fun r q => .seq q.regex r) p.regex
      blueprint := .sequence ((p :: ps).reverse.map (·.blueprint))
      depth := 1 + ps.foldl (fun d q => max d q.depth) p.depth }

/-- Alternatives, latest first; a single one is no choice. -/
def choice : List Part → Part
  | [] => empty
  | [p] => p
  | p :: ps =>
    { regex := ps.foldl (fun r q => .alt q.regex r) p.regex
      blueprint := .choice ((p :: ps).reverse.map (·.blueprint))
      depth := 1 + ps.foldl (fun d q => max d q.depth) p.depth }

/-- A part in parentheses, which may be there to remember its match. -/
def grouped (p : Part) (remembers : Bool) : Part :=
  { regex := p.regex
    blueprint := if remembers then .group p.blueprint else p.blueprint
    depth := p.depth + 1 }

/-- A part that is repeated. -/
def repeated (p : Part) (lo : Nat) (hi : Option Nat) : Part :=
  { regex := p.regex.repeated lo hi
    blueprint := p.blueprint.repeated lo hi
    depth := p.depth + 1 }

end Part

/-! ## Open groups -/

/-- The alternatives that are being read: the parts of the present one and those
that are complete, both latest first. -/
structure Branches where
  parts : List Part := []
  complete : List Part := []

namespace Branches

/-- Adds a part to the present alternative. -/
def add (b : Branches) (p : Part) : Branches := { b with parts := p :: b.parts }

/-- Completes the present alternative and begins the next. -/
def next (b : Branches) : Branches := ⟨[], Part.sequence b.parts :: b.complete⟩

/-- All alternatives together. -/
def total (b : Branches) : Part := Part.choice (Part.sequence b.parts :: b.complete)

end Branches

/-- A group that is interrupted by a group inside it. -/
structure OuterGroup where
  branches : Branches
  /-- The flags that come back when the group inside is closed. -/
  flags : Flags
  /-- Whether the match of the group inside is remembered. -/
  remembers : Bool

/-- How far a pattern is read: the flags in force, the group names used, the
present group, and around it the groups that are open, innermost first. -/
structure Reading where
  flags : Flags
  names : List Text := []
  present : Branches := {}
  outer : List OuterGroup := []

namespace Reading

/-- Adds a part to the present alternative. -/
def add (s : Reading) (p : Part) : Reading := { s with present := s.present.add p }

/-- Opens a group that is read under `inside`. -/
def openGroup (s : Reading) (inside : Flags) (remembers : Bool) : Reading :=
  { s with flags := inside, present := {}, outer := ⟨s.present, s.flags, remembers⟩ :: s.outer }

/-- Closes the innermost group, if there is one. -/
def closeGroup? (s : Reading) : Option Reading :=
  match s.outer with
  | [] => none
  | before :: outer =>
    some { s with
      flags := before.flags
      present := before.branches.add (s.present.total.grouped before.remembers)
      outer }

/-- Repeats the latest part, if there is one that can be repeated. -/
def repeatLatest? (s : Reading) (lo : Nat) (hi : Option Nat) : Option Reading :=
  match s.present.parts with
  | [] => none
  | p :: ps =>
    if p.repeatable then
      some { s with present := { s.present with parts := p.repeated lo hi :: ps } }
    else none

end Reading

/-! ## Beginnings of groups -/

/-- Reads the letters of a change of flags up to the colon or the parenthesis
after them. A letter may occur once, the hyphen that switches off may occur once
and has to be followed by a letter. -/
def readFlagLetters (seen : List Char) (on : Bool) (f : Flags) : Text → Option (Flags × Text)
  | [] => none
  | ':' :: rest => if seen.head? == some '-' then none else some (f, ':' :: rest)
  | ')' :: rest => if seen.head? == some '-' then none else some (f, ')' :: rest)
  | '-' :: rest =>
    if seen.contains '-' then none else readFlagLetters ('-' :: seen) false f rest
  | c :: rest =>
    if seen.contains c then none
    else match f.set? c on with
      | some f => readFlagLetters (c :: seen) on f rest
      | none => none

/-- The characters that count as letters. -/
def alphabeticCharacters : Unicode.InversionList :=
  (Unicode.binarySet? "alphabetic").getD ⟨#[]⟩

/-- The characters that count as numbers. -/
def numberCharacters : Unicode.InversionList :=
  (Unicode.categorySet? "number").getD ⟨#[]⟩

/-- Whether a character may stand in the name of a group. -/
def isNameChar (first : Bool) (c : Char) : Bool :=
  if c.toNat < 128 then
    c == '_' || c.isAlpha || (!first && (c.isDigit || c == '.' || c == '[' || c == ']'))
  else
    alphabeticCharacters.containsAfter Unicode.alphabeticChanges c.toNat ||
      (!first && numberCharacters.containsAfter Unicode.numberChanges c.toNat)

/-- Reads the name of a group up to its closing angle bracket. -/
def readGroupName (t : Text) : Option (Text × Text) :=
  match t.dropWhile (· != '>') with
  | [] => none
  | _ :: rest =>
    match t.takeWhile (· != '>') with
    | [] => none
    | c :: name =>
      if isNameChar true c && name.all (isNameChar false) then some (c :: name, rest)
      else none

/-- Reads what follows an opening parenthesis: a group, with or without a name,
a group under other flags, or a change of flags for what follows. -/
def readGroupStart (s : Reading) (t : Text) : Option (Reading × Text) :=
  let named (t : Text) : Option (Reading × Text) := do
    let (name, rest) ← readGroupName t
    if s.names.contains name then none
    else return ({ s with names := name :: s.names }.openGroup s.flags true, rest)
  match s.flags.skip t with
  -- Looking ahead and looking behind do not exist.
  | '?' :: '=' :: _ => none
  | '?' :: '!' :: _ => none
  | '?' :: '<' :: '=' :: _ => none
  | '?' :: '<' :: '!' :: _ => none
  -- A name may be introduced in either of two ways.
  | '?' :: 'P' :: '<' :: rest => named rest
  | '?' :: '<' :: rest => named rest
  -- A change of flags has to change something.
  | '?' :: ')' :: _ => none
  | '?' :: rest =>
    match readFlagLetters [] true s.flags rest with
    -- Without a colon the flags change for the rest of the present group.
    | some (f, ')' :: rest) => some ({ s with flags := f }.add .flagChange, rest)
    | some (f, ':' :: rest) => some (s.openGroup f false, rest)
    | _ => none
  | rest => some (s.openGroup s.flags true, rest)

/-! ## Repetition -/

/-- Counts are below this bound. -/
def countBound : Nat := 0x100000000

/-- Reads the digits of a count. -/
def readDigits (f : Flags) : Nat → Text → Text × Text
  | 0, t => ([], t)
  | fuel + 1, t =>
    match t with
    | [] => ([], [])
    | c :: rest =>
      if c.isDigit then
        let (digits, rest) := readDigits f fuel (f.skip rest)
        (c :: digits, rest)
      else ([], c :: rest)

/-- Reads a count and the blanks on both sides of it. -/
def readCount (f : Flags) (t : Text) : Option (Nat × Text) :=
  let t := t.dropWhile Text.isBlank
  let (digits, rest) := readDigits f t.length t
  let n := Nat.ofDigitChars 10 digits 0
  if digits.isEmpty || countBound ≤ n then none
  else some (n, f.skip (rest.dropWhile Text.isBlank))

/-- Reads the bounds of a repetition after its opening brace: one count, a count
and a comma, or two counts in order. -/
def readBounds (f : Flags) (t : Text) : Option (Nat × Option Nat × Text) := do
  let (lo, t) ← readCount f (← f.skipTo? t)
  match t with
  | ',' :: rest =>
    match ← f.skipTo? rest with
    | '}' :: rest => return (lo, none, rest)
    | rest =>
      match ← readCount f rest with
      | (hi, '}' :: rest) => if lo ≤ hi then return (lo, some hi, rest) else none
      | _ => none
  | '}' :: rest => return (lo, some lo, rest)
  | _ => none

/-- Drops the sign that would make a repetition prefer fewer rounds. -/
def dropLazy : Text → Text
  | '?' :: rest => rest
  | t => t

/-! ## The pattern -/

/-- Reads one thing of a pattern. -/
def readOne (s : Reading) : Text → Option (Reading × Text)
  | [] => none
  | c :: rest =>
    let f := s.flags
    let assertion (a : Assertion) := some (s.add (.assertion a), rest)
    let repeated (lo : Nat) (hi : Option Nat) :=
      (s.repeatLatest? lo hi).map (·, dropLazy rest)
    match c with
    | '(' => readGroupStart s rest
    | ')' => s.closeGroup?.map (·, rest)
    | '|' => some ({ s with present := s.present.next }, rest)
    | '[' =>
      (readClass f rest).map fun (a, rest) => (s.add (.chars a.members a.depth), rest)
    | '?' => repeated 0 (some 1)
    | '*' => repeated 0 none
    | '+' => repeated 1 none
    | '{' => do
      let (lo, hi, rest) ← readBounds f rest
      return (← s.repeatLatest? lo hi, dropLazy (f.skip rest))
    | '^' =>
      assertion (if !f.multiLine then .textStart else if f.crlf then .lineStartCrlf else .lineStart)
    | '$' =>
      assertion (if !f.multiLine then .textEnd else if f.crlf then .lineEndCrlf else .lineEnd)
    | '.' => (Atom.dot.toClass? f).map fun a => (s.add (.chars a), rest)
    | '\\' => do
      match ← readEscape f rest with
      | (.assertion a, rest) => return (s.add (.assertion a), rest)
      | (atom, rest) => return (s.add (.chars (← atom.toClass? f)), rest)
    | c => ((Atom.literal c false).toClass? f).map fun a => (s.add (.chars a), rest)

/-- Reads a pattern to its end, where no group may be open any more. -/
def readPattern (s : Reading) : Nat → Text → Option Part
  | 0, _ => none
  | fuel + 1, t =>
    match s.flags.skip t with
    | [] => if s.outer.isEmpty then some s.present.total else none
    | t => do
      let (s, rest) ← readOne s t
      readPattern s fuel rest

end GridFilter.Regex
