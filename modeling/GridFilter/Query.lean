/-
Queries: signed terms, applied one after the other.

A query is written as pieces separated by blanks and commas. The sign in front of
a piece says what its term does to the rows of a grid: `+` reveals matching rows,
`-` hides them, and a term without a sign narrows the visible rows down to those
that match. Only the very first piece is read as revealing when it has no sign,
since before it there are no visible rows to narrow.

Reading a query cannot fail. A sign with nothing after it is passed over, though
as the first piece it still keeps the next one from being first.
-/
import GridFilter.Text.Piece

set_option autoImplicit false

namespace GridFilter

/-- What a term does with the rows that match it. -/
inductive Sign where
  /-- Shows every matching row of the grid. -/
  | reveal
  /-- Hides the visible rows that match. -/
  | hide
  /-- Hides the visible rows that do not match. -/
  | narrow
  deriving DecidableEq, Repr

namespace Sign

/-- The sign as it is written in front of a term. -/
def written : Sign → Text
  | reveal => ['+']
  | hide => ['-']
  | narrow => []

/-- The name of what the sign does. -/
def name : Sign → String
  | reveal => "include"
  | hide => "exclude"
  | narrow => "constrain"

end Sign

/-- One term of a query: what to look for, and what to do where it is found. -/
structure Term where
  sign : Sign
  fragment : Text
  deriving DecidableEq, Repr

namespace Term

/-- The term as it is written in a query. -/
def display (t : Term) : Text := t.sign.written ++ t.fragment

/-- The term of a piece; `unsigned` is the sign of a piece that has none. A sign
alone is no term. -/
def ofPiece? (unsigned : Sign) (piece : Text) : Option Term :=
  let (sign, fragment) := match piece with
    | '+' :: rest => (Sign.reveal, rest)
    | '-' :: rest => (Sign.hide, rest)
    | piece => (unsigned, piece)
  if fragment.isEmpty then none else some ⟨sign, fragment⟩

end Term

namespace Query

/-- The terms of a query, in order. -/
def terms (raw : Text) : List Term :=
  match raw.pieces with
  | [] => []
  | first :: rest =>
    (Term.ofPiece? .reveal first).toList ++ rest.filterMap (Term.ofPiece? .narrow)

/-- Whether a query is too short to filter by: it is empty, or has fewer
characters than are asked for. -/
def isDegenerate (raw : Text) (minChars : UInt64) : Bool :=
  raw.isEmpty || raw.length < minChars.toNat

end Query

/-- A query that is kept together with its terms, so that it is taken apart once
and can be evaluated again and again. -/
structure ParsedQuery where
  raw : Text := []
  terms : List Term := []
  deriving DecidableEq, Repr

/-- Takes a query apart. -/
def ParsedQuery.ofText (raw : Text) : ParsedQuery := { raw, terms := Query.terms raw }

end GridFilter
