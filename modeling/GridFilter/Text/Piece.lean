/-
The pieces of a text.

Blanks and commas separate; a piece is a longest run of other characters. Queries
are made of pieces, and so are the phrases that one fragment of a query may hold,
so both are cut by the one function below.
-/
import GridFilter.Text.Basic

set_option autoImplicit false

namespace GridFilter.Text

/-- Whether a character separates pieces. -/
def isSeparator (c : Char) : Bool := isBlank c || c == ','

/-- The pieces of a text, in order. Neighbouring separators leave empty parts
between them, which are no pieces. -/
def pieces (t : Text) : List Text :=
  (splitWhere isSeparator t).filter fun piece => !piece.isEmpty

end GridFilter.Text
