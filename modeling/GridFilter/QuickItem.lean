/-
Phrases kept ready, and queries made from them.

A quick item is written as label, phrase and perhaps a tooltip, with bars between
them. The label ends at the first bar and the tooltip begins after the last, so
the phrase in the middle may hold bars itself, as alternatives do. Without a
second bar there is no tooltip.
-/
import GridFilter.Text.Basic

set_option autoImplicit false

namespace GridFilter

/-- A phrase that can be picked by its label. -/
structure QuickItem where
  label : Text
  phrase : Text
  tooltip : Option Text := none
  deriving DecidableEq, Repr

namespace QuickItem

/-- A text unless it is empty. -/
def nonEmpty? (t : Text) : Option Text := if t.isEmpty then none else some t

/-- Reads an item as it is written in the settings. Label and phrase have to be
there; an empty tooltip is none. -/
def read? (value : Text) : Option QuickItem := do
  let (label, rest) ← value.splitFirst? '|'
  let (phrase, tooltip) := (rest.splitLast? '|').getD (rest, [])
  return { label := ← nonEmpty? label.trim, phrase := ← nonEmpty? phrase.trim,
           tooltip := nonEmpty? tooltip.trim }

/-- Writes an item for the settings. -/
def write (i : QuickItem) : Text :=
  i.label ++ " | ".toList ++ i.phrase ++
    match i.tooltip with
    | some tooltip => " | ".toList ++ tooltip
    | none => []

end QuickItem

/-- What picking an item does to the query that is there. -/
structure PickModifiers where
  /-- The query stays and the phrase is appended. -/
  add : Bool := false
  /-- The query stays and the phrase is taken out. -/
  subtract : Bool := false
  deriving DecidableEq, Repr

/-- The query after a phrase is picked. Without modifiers the phrase replaces the
query; with `add` it is appended as it is, with `subtract` behind a minus sign,
and with both behind a plus sign. A phrase can only be taken out of rows that are
visible, so if there is no query yet, a full stop is put in front: read as an
expression, it matches every cell that holds anything but line feeds. The query
ends with a blank, ready for more. -/
def composeQuery (current phrase : Text) (mods : PickModifiers) : Text :=
  let base := if mods.add || mods.subtract then current.trim else []
  let gap : Text := if base.isEmpty then [] else [' ']
  let front : Text :=
    if mods.add && mods.subtract then base ++ gap ++ ['+']
    else if mods.subtract then
      (if base.isEmpty then ['.', ' '] else base ++ gap) ++ ['-']
    else base ++ gap
  front ++ phrase ++ [' ']

end GridFilter
