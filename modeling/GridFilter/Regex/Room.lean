/-
How much room the machine for a blueprint takes.

The machine reads bytes. It is made of states of one size, and some states have
more to hold: a branching state has an arrow for every byte range it tells apart,
and a choosing state has a link for every way it can go. Counted repetition is
unfolded, which is where large machines come from.

There are two machines, one that reads forward and one that reads backward. They
differ in that only the first remembers where groups begin and end, and in how they
read a class: forward, states with equal futures are shared, and backward, bytes
that lead the same way.
-/
import GridFilter.Regex.Blueprint

set_option autoImplicit false

namespace GridFilter.Regex

/-- The room for a state. -/
def stateRoom : Nat := 32

/-- The room for an arrow of a branching state. -/
def arrowRoom : Nat := 8

/-- The room for a link of a choosing state. -/
def linkRoom : Nat := 4

/-! ## Classes -/

/-- The room for a class whose characters have the given byte forms. -/
def formsRoom (backward : Bool) (forms : List ByteForm) : Nat :=
  let states := forms :: ByteForm.laterStates 3 forms
  let arrows (state : List ByteForm) : Nat := (ByteForm.branches state).length
  if backward then
    -- A choice among all forms and its end, and a state for every byte range of the tree.
    states.foldl (fun n state => n + stateRoom * arrows state)
      (2 * stateRoom + linkRoom * forms.length)
  else
    states.eraseDups.foldl (fun n state => n + stateRoom + arrowRoom * arrows state) stateRoom

/-- The room for a class. ASCII takes one branching state and its end. -/
def classRoom (backward : Bool) (runs : List CharRun) : Nat :=
  if runs.all (·.last < 0x80) then 2 * stateRoom + arrowRoom * runs.length
  else formsRoom backward (runs.flatMap ByteForm.ofRun)

/-! ## Choices among texts -/

/-- The bytes of a text. -/
def textBytes (t : Text) : List UInt8 := t.flatMap String.utf8EncodeChar

/-- The room for one state of a tree of words, given the words that go on from it;
the longest has at most `fuel` bytes. An empty word ends at the state, and the words
before and behind it are kept apart, since they differ in rank. -/
def wordTreeRoom : (fuel : Nat) → List (List UInt8) → Nat
  | 0, _ => 0
  | fuel + 1, words =>
    if words.all (·.isEmpty) then 0
    else
      -- Several ends in a row at the front say no more than one.
      let words := match words with
        | [] :: rest => [] :: rest.dropWhile (·.isEmpty)
        | words => words
      let ends := words.countP (·.isEmpty)
      let parts := (splitAtEnds words).filter (!·.isEmpty)
      let partRoom (part : List (List UInt8)) : Nat :=
        let bytes := (part.filterMap (·.head?)).eraseDups
        (if bytes.length = 1 then stateRoom else stateRoom + arrowRoom * bytes.length) +
          bytes.foldl (fun n b => n + wordTreeRoom fuel
            (part.filterMap fun word => if word.head? == some b then some word.tail else none)) 0
      parts.foldl (fun n part => n + partRoom part) (stateRoom + linkRoom * (parts.length + ends))
where
  /-- The words between the empty ones. -/
  splitAtEnds : List (List UInt8) → List (List (List UInt8))
    | [] => [[]]
    | [] :: rest => [] :: splitAtEnds rest
    | word :: rest =>
      match splitAtEnds rest with
      | part :: parts => (word :: part) :: parts
      | [] => [[word]]

/-- The room for a choice among texts. -/
def textsRoom (backward : Bool) (texts : List Text) : Nat :=
  let words := texts.map fun t => if backward then (textBytes t).reverse else textBytes t
  stateRoom + wordTreeRoom ((words.map (·.length)).foldl max 0 + 1) words

/-! ## Blueprints -/

namespace Blueprint

/-- The text of a literal. -/
def literalText? : Blueprint → Option Text
  | literal t => some t
  | _ => none

/-- The room for a blueprint, `further` if it is an alternative behind the first
one. -/
def roomAs (backward : Bool) (further : Bool) : Blueprint → Nat
  | alt p q =>
    let apart := linkRoom + p.roomAs backward false + q.roomAs backward true
    if further then apart
    else match (alt p q).branches.mapM literalText? with
      | some texts => textsRoom backward texts
      | none => 2 * stateRoom + apart
  | p =>
    (if further then linkRoom else 0) + match p with
      | empty => stateRoom
      | literal t => stateRoom * byteLength t
      | chars runs => classRoom backward runs
      | place _ => stateRoom
      | group p => (if backward then 0 else 2 * stateRoom) + p.roomAs backward false
      | times p lo hi =>
        let once := p.roomAs backward false
        match lo, hi with
        | 0, some 1 => once + 2 * stateRoom + 2 * linkRoom
        | 0, none =>
          if p.minLength.any (0 < ·) then once + stateRoom + 2 * linkRoom
          else once + 3 * stateRoom + 4 * linkRoom
        | lo, none => lo * once + stateRoom + 2 * linkRoom
        | lo, some hi =>
          if lo = hi then lo * once
          else (if lo = 0 then stateRoom else lo * once) + stateRoom +
            (hi - lo) * (once + stateRoom + 2 * linkRoom)
      | seq p q => p.roomAs backward false + q.roomAs backward false
      | alt _ _ => 0

/-- The room for the machine that looks for a blueprint anywhere in a text: in front
of it stands a loop that passes over any byte, and behind it a last state. -/
def room (backward : Bool) (p : Blueprint) : Nat :=
  let loop := 3 * stateRoom + arrowRoom + 2 * linkRoom
  let frame := if backward then stateRoom else 3 * stateRoom
  loop + p.roomAs backward false + frame

end Blueprint

end GridFilter.Regex
