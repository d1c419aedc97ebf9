/-
How runs of characters look as bytes.

A character is written with one to four bytes, and a run of characters falls into
byte forms: lists of byte ranges, such that the characters of the form are those
whose first byte lies in the first range, the second in the second, and so on.
Forms come in the order of their characters, and no two share a character.

A machine that reads a class byte by byte is a tree of forms, in which forms that
begin alike share their beginnings. Where states with equal futures are made one,
the tree folds up further.
-/
import GridFilter.Regex.ClassRuns

set_option autoImplicit false

namespace GridFilter.Regex

/-- Bytes from the first number to the second. -/
abbrev ByteRange := Nat × Nat

/-- The byte ranges of some characters, first byte first. -/
abbrev ByteForm := List ByteRange

namespace ByteForm

/-- The forms of the numbers from `lo` to `hi`, written with `count` further digits
to base 64 behind the first one. Blocks at either end that are not full are split
off, and what is left between them is one form. -/
def ofDigits : (count lo hi : Nat) → List ByteForm
  | 0, lo, hi => [[(lo, hi)]]
  | count + 1, lo, hi =>
    let block := 64 ^ (count + 1)
    let a := lo / block
    let b := hi / block
    let inside (digit lo hi : Nat) := (ofDigits count lo hi).map ((digit, digit) :: ·)
    if a = b then inside a (lo % block) (hi % block)
    else
      let fullStart := lo % block = 0
      let fullEnd := hi % block = block - 1
      let a' := if fullStart then a else a + 1
      let b' := if fullEnd then b else b - 1
      (if fullStart then [] else inside a (lo % block) (block - 1)) ++
        (if a' ≤ b' then [(a', b') :: List.replicate (count + 1) (0, 63)] else []) ++
        (if fullEnd then [] else inside b 0 (hi % block))

/-- The stretches of characters that are written with equally many bytes, with the
number of bytes behind the first one and the offset of the first one. -/
def widths : List (CharRun × Nat × Nat) :=
  [(⟨0, 0x7F⟩, 0, 0), (⟨0x80, 0x7FF⟩, 1, 0xC0), (⟨0x800, 0xD7FF⟩, 2, 0xE0),
   (⟨0xE000, 0xFFFF⟩, 2, 0xE0), (⟨0x10000, 0x10FFFF⟩, 3, 0xF0)]

/-- The number of bytes of a character. -/
def byteCount (n : Nat) : Nat :=
  if n < 0x80 then 1 else if n < 0x800 then 2 else if n < 0x10000 then 3 else 4

/-- The forms of a run of characters. -/
def ofRun (r : CharRun) : List ByteForm :=
  widths.flatMap fun (stretch, count, offset) =>
    let lo := max r.first stretch.first
    let hi := min r.last stretch.last
    if lo ≤ hi then
      (ofDigits count lo hi).map fun form => match form with
        | [] => []
        | (a, b) :: rest => (a + offset, b + offset) :: rest
    else []

/-- The forms as a tree: each range that a form begins with, and how the forms go
on that begin with it. -/
def branches : List ByteForm → List (ByteRange × List ByteForm)
  | [] => []
  | [] :: forms => branches forms
  | (b :: tail) :: forms =>
    match branches forms with
    | (c, tails) :: more =>
      if b = c then (b, tail :: tails) :: more else (b, [tail]) :: (c, tails) :: more
    | [] => [(b, [tail])]

/-- The states of the tree behind its root, each by the forms that lead on from
it; the forms have at most `depth + 1` bytes. -/
def laterStates : (depth : Nat) → List ByteForm → List (List ByteForm)
  | 0, _ => []
  | depth + 1, forms =>
    (branches forms).flatMap fun (_, tails) =>
      if tails.all (·.isEmpty) then [] else tails :: laterStates depth tails

end ByteForm

end GridFilter.Regex
