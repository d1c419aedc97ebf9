/-
Classes in brackets.

Between brackets stand characters, ranges, named classes, nested brackets and
three operations on what stands to their left and right: `&&` keeps what is in
both, `--` what is only in the left, `~~` what is in exactly one. The operations
bind weaker than listing and are taken from left to right. A bracket that is the
first thing listed is a member, so an empty class cannot be written.

Every class is read together with how deeply it nests; a limit on that depth is
part of what makes a pattern acceptable.
-/
import GridFilter.Regex.Escape

set_option autoImplicit false

namespace GridFilter.Regex

/-! ## Classes under construction -/

/-- A class with its depth of nesting. -/
structure NestedClass where
  members : CharClass
  depth : Nat

/-- The operations between classes. -/
inductive ClassOp where
  | inter
  | diff
  | symmDiff

namespace ClassOp

/-- The result of an operation. -/
def apply (op : ClassOp) (a b : CharClass) : CharClass :=
  match op with
  | inter => .inter a b
  | diff => .inter a (.compl b)
  | symmDiff => .symmDiff a b

/-- The operation whose sign is written with `c` twice. -/
def ofSign? (c : Char) : Option ClassOp :=
  if c == '&' then some inter
  else if c == '-' then some diff
  else if c == '~' then some symmDiff
  else none

end ClassOp

/-- All that was listed side by side, latest first, as one class. -/
def NestedClass.listed : List NestedClass → NestedClass
  | [] => ⟨.nothing, 0⟩
  | [a] => a
  | items =>
    ⟨items.foldl (fun u a => .union a.members u) .nothing,
      1 + items.foldl (fun d a => max d a.depth) 0⟩

/-- A bracket that is being read: what is listed since the last operation, latest
first, and that operation with everything to its left. -/
structure OpenBracket where
  negated : Bool
  items : List NestedClass
  pending : Option (NestedClass × ClassOp) := none

namespace OpenBracket

/-- Lists one more class. -/
def list (b : OpenBracket) (a : NestedClass) : OpenBracket :=
  { b with items := a :: b.items }

/-- Everything read so far, with the pending operation carried out. -/
def total (b : OpenBracket) : NestedClass :=
  let right := NestedClass.listed b.items
  match b.pending with
  | none => right
  | some (left, op) => ⟨op.apply left.members right.members, 1 + max left.depth right.depth⟩

/-- Goes on to the right-hand side of an operation. -/
def operate (b : OpenBracket) (op : ClassOp) : OpenBracket :=
  { b with items := [], pending := some (b.total, op) }

/-- The class of the closed bracket. -/
def close? (f : Flags) (b : OpenBracket) : Option NestedClass := do
  let body := b.total
  return ⟨← f.negate? b.negated body.members, body.depth + 1⟩

end OpenBracket

/-! ## Members -/

/-- A single character of a class. Without wide classes only ASCII has a place in
one. -/
def memberClass? (f : Flags) (c : Char) : Option NestedClass :=
  if !f.wide && 0x7F < c.toNat then none else some ⟨f.fold (.single c), 0⟩

/-- The named ASCII classes. -/
def asciiClass? : List Char → Option CharClass
  | ['a', 'l', 'n', 'u', 'm'] => some (.ofRanges [('0', '9'), ('A', 'Z'), ('a', 'z')])
  | ['a', 'l', 'p', 'h', 'a'] => some (.ofRanges [('A', 'Z'), ('a', 'z')])
  | ['a', 's', 'c', 'i', 'i'] => some (.range '\x00' '\x7F')
  | ['b', 'l', 'a', 'n', 'k'] => some (.ofRanges [('\t', '\t'), (' ', ' ')])
  | ['c', 'n', 't', 'r', 'l'] => some (.ofRanges [('\x00', '\x1F'), ('\x7F', '\x7F')])
  | ['d', 'i', 'g', 'i', 't'] => some (.range '0' '9')
  | ['g', 'r', 'a', 'p', 'h'] => some (.range '!' '~')
  | ['l', 'o', 'w', 'e', 'r'] => some (.range 'a' 'z')
  | ['p', 'r', 'i', 'n', 't'] => some (.range ' ' '~')
  | ['p', 'u', 'n', 'c', 't'] =>
    some (.ofRanges [('!', '/'), (':', '@'), ('[', '\x60'), ('\x7B', '~')])
  | ['s', 'p', 'a', 'c', 'e'] => some (.ofRanges [('\t', '\r'), (' ', ' ')])
  | ['u', 'p', 'p', 'e', 'r'] => some (.range 'A' 'Z')
  | ['w', 'o', 'r', 'd'] => some (.ofRanges [('0', '9'), ('A', 'Z'), ('_', '_'), ('a', 'z')])
  | ['x', 'd', 'i', 'g', 'i', 't'] => some (.ofRanges [('0', '9'), ('A', 'F'), ('a', 'f')])
  | _ => none

/-- Reads a named ASCII class after its opening bracket: a colon, perhaps a
circumflex, the name, a colon and a closing bracket. Whatever differs from this
form, or has an unknown name, is not an error: it is read as a nested bracket. -/
def readAsciiClass? : Text → Option (Bool × CharClass × Text)
  | ':' :: t =>
    let (negated, t) := match t with
      | '^' :: t => (true, t)
      | t => (false, t)
    match t.dropWhile (· != ':') with
    | ':' :: ']' :: rest =>
      (asciiClass? (t.takeWhile (· != ':'))).map fun members => (negated, members, rest)
    | _ => none
  | _ => none

/-- Reads one member: an escape sequence or a character. -/
def readMember (f : Flags) : Text → Option (Atom × Text)
  | [] => none
  | '\\' :: t => readEscape f t
  | c :: t => some (.literal c false, t)

/-- The class of a member that stands alone. -/
def Atom.listed? (f : Flags) : Atom → Option NestedClass
  | .literal c _ => memberClass? f c
  | atom => (atom.toClass? f).map (⟨·, 0⟩)

/-- Reads a member, or a range of two. A hyphen before the closing bracket or
before another hyphen makes no range. -/
def readRange (f : Flags) (t : Text) : Option (NestedClass × Text) := do
  let (first, t) ← readMember f t
  match ← f.skipTo? t with
  | '-' :: rest =>
    -- The hyphen is left for the next round: as a member, or as an operation.
    if f.peek? rest == some ']' || f.peek? rest == some '-' then
      return (← first.listed? f, '-' :: rest)
    let (last, rest) ← readMember f (← f.skipTo? rest)
    match first, last with
    | .literal lo _, .literal hi _ =>
      if !f.wide && 0x7F < hi.toNat then none
      else if lo ≤ hi then return (⟨f.fold (.range lo hi), 0⟩, rest)
      else none
    | _, _ => none
  | t => return (← first.listed? f, t)

/-! ## Brackets -/

/-- Reads the hyphens that may stand first in a bracket. -/
def readHyphens (f : Flags) (b : OpenBracket) : Nat → Text → Option (OpenBracket × Text)
  | 0, _ => none
  | fuel + 1, t =>
    match t with
    | '-' :: rest => do
      readHyphens f (b.list (← memberClass? f '-')) fuel (← f.skipTo? rest)
    | t => some (b, t)

/-- Reads the beginning of a bracket: a circumflex that complements it, hyphens,
and a closing bracket that is only a member. -/
def openBracket (f : Flags) (t : Text) : Option (OpenBracket × Text) := do
  let t ← f.skipTo? t
  let (negated, t) ← match t with
    | '^' :: rest => (f.skipTo? rest).map (true, ·)
    | t => some (false, t)
  let (b, t) ← readHyphens f { negated, items := [] } (t.length + 1) t
  match t with
  | ']' :: rest =>
    if b.items.isEmpty then return (b.list (← memberClass? f ']'), ← f.skipTo? rest)
    else return (b, t)
  | t => return (b, t)

/-- The brackets that are open, innermost first. -/
abbrev OpenBrackets := OpenBracket × List OpenBracket

/-- Reads one thing inside brackets: a named class, the beginning of a nested
bracket, an operation or a member. -/
def readListed (f : Flags) (open_ : OpenBrackets) (t : Text) :
    Option (OpenBrackets × Text) := do
  let (b, outer) := open_
  match t with
  | '[' :: rest =>
    match readAsciiClass? rest with
    | some (negated, members, rest) =>
      return ((b.list ⟨← f.negate? negated (f.fold members), 0⟩, outer), rest)
    | none =>
      let (inner, rest) ← openBracket f rest
      return ((inner, b :: outer), rest)
  | t =>
    match readOperation? t with
    | some (op, rest) => return ((b.operate op, outer), rest)
    | none =>
      let (a, rest) ← readRange f t
      return ((b.list a, outer), rest)
where
  /-- An operation's sign, written twice. -/
  readOperation? : Text → Option (ClassOp × Text)
    | c :: d :: rest =>
      if c == d then (ClassOp.ofSign? c).map (·, rest) else none
    | _ => none

/-- Reads up to the bracket that closes the outermost one. -/
def readBrackets (f : Flags) : OpenBrackets → Nat → Text → Option (NestedClass × Text)
  | _, 0, _ => none
  | (b, outer), fuel + 1, t => do
    match ← f.skipTo? t with
    | ']' :: rest =>
      let a ← b.close? f
      match outer with
      | [] => return (a, rest)
      | b :: outer => readBrackets f (b.list a, outer) fuel rest
    | t =>
      let (open_, rest) ← readListed f (b, outer) t
      readBrackets f open_ fuel rest

/-- Reads a class after its opening bracket. -/
def readClass (f : Flags) (t : Text) : Option (NestedClass × Text) := do
  let (b, rest) ← openBracket f t
  readBrackets f (b, []) (rest.length + 1) rest

end GridFilter.Regex
