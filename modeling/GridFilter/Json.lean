/-
JSON values and their layout.

A value is laid out with one member on a line, two blanks deeper than what it
belongs to; empty lists and objects take no line of their own. In strings only
what has to be escaped is: quotation marks, backslashes and control characters.
-/
import GridFilter.Text.Number

set_option autoImplicit false

namespace GridFilter

/-- A JSON value. The members of an object keep their order. -/
inductive Json where
  | bool (b : Bool)
  | nat (n : Nat)
  | string (t : Text)
  | array (items : List Json)
  | object (members : List (Text × Json))

namespace Json

/-- The two lowest hexadecimal digits of a number. -/
def twoHexDigits (n : Nat) : Text := [Nat.digitChar (n / 16), Nat.digitChar (n % 16)]

/-- A character as it is written in a string. -/
def escapeChar (c : Char) : Text :=
  match c with
  | '"' => ['\\', '"']
  | '\\' => ['\\', '\\']
  | '\x08' => ['\\', 'b']
  | '\x0C' => ['\\', 'f']
  | '\n' => ['\\', 'n']
  | '\r' => ['\\', 'r']
  | '\t' => ['\\', 't']
  | c => if c.toNat < 0x20 then '\\' :: 'u' :: '0' :: '0' :: twoHexDigits c.toNat else [c]

/-- A string with its quotation marks. -/
def writeString (t : Text) : Text := '"' :: (t.flatMap escapeChar ++ ['"'])

/-- A new line with room in front. -/
def newLine (indent : Nat) : Text := '\n' :: List.replicate (2 * indent) ' '

/-- Members between brackets, each on a line of its own. -/
def enclose (indent : Nat) (opening closing : Char) (members : List Text) : Text :=
  if members.isEmpty then [opening, closing]
  else
    opening ::
      (Text.join [','] (members.map fun m => newLine (indent + 1) ++ m) ++
        newLine indent ++ [closing])

/-- The new line in front of a member stands behind the bracket, or behind a comma. -/
theorem enclose_of_ne_nil (indent : Nat) (opening closing : Char) {members : List Text}
    (h : members ≠ []) :
    enclose indent opening closing members =
      opening :: (newLine (indent + 1) ++ Text.join (',' :: newLine (indent + 1)) members ++
        newLine indent ++ [closing]) := by
  have joined : Text.join [','] (members.map fun m => newLine (indent + 1) ++ m) =
      newLine (indent + 1) ++ Text.join (',' :: newLine (indent + 1)) members := by
    induction members with
    | nil => exact absurd rfl h
    | cons m rest ih =>
      cases rest with
      | nil => simp [Text.join, List.intercalate]
      | cons next rest =>
        have more : next :: rest ≠ [] := List.cons_ne_nil next rest
        rw [List.map_cons, Text.join_cons_of_ne_nil _ _ (by simp), ih more,
          Text.join_cons_of_ne_nil _ m more]
        simp
  rw [enclose, joined, if_neg (by simpa using h)]

mutual

/-- Lays out a value that stands at the given depth. -/
def write (indent : Nat) : Json → Text
  | bool b => (if b then "true" else "false").toList
  | nat n => Text.ofNat n
  | string t => writeString t
  | array items => enclose indent '[' ']' (writeItems (indent + 1) items)
  | object members => enclose indent '\x7b' '\x7d' (writeMembers (indent + 1) members)

/-- Lays out the items of a list. -/
def writeItems (indent : Nat) : List Json → List Text
  | [] => []
  | v :: vs => v.write indent :: writeItems indent vs

/-- Lays out the members of an object. -/
def writeMembers (indent : Nat) : List (Text × Json) → List Text
  | [] => []
  | (name, v) :: vs => (writeString name ++ [':', ' '] ++ v.write indent) :: writeMembers indent vs

end

theorem writeItems_eq_map (indent : Nat) (vs : List Json) :
    writeItems indent vs = vs.map (write indent) := by
  induction vs with
  | nil => rw [writeItems, List.map_nil]
  | cons v vs ih => rw [writeItems, ih, List.map_cons]

end Json

end GridFilter
