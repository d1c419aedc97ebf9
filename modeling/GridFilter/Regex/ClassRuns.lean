/-
The runs of a class of characters.

However a class was put together, its members form runs: longest stretches of
neighbouring characters. What a class costs depends on its runs alone and not on
how it was written, so this module computes them.

A set of numbers is given by the ascending places where membership changes, the
first of them from outside to inside. The numbers between U+D7FF and U+E000 are
no characters, so those two are neighbours.
-/
import GridFilter.Regex.CharClass

set_option autoImplicit false

namespace GridFilter.Regex

open GridFilter.Unicode

/-- A run of characters, by the numbers of the first and the last one. -/
structure CharRun where
  first : Nat
  last : Nat
  deriving DecidableEq, Repr

/-! ## Sets by the places where membership changes -/

namespace Places

/-- Combines two sets number by number. `a` and `b` say whether the place that was
reached lies in the first and in the second set; there are at most `fuel` places
ahead. -/
def combineFrom (op : Bool → Bool → Bool) :
    Nat → (a b : Bool) → List Nat → List Nat → List Nat
  | 0, _, _, _, _ => []
  | fuel + 1, a, b, xs, ys =>
    let pass (n : Nat) (a' b' : Bool) (xs ys : List Nat) : List Nat :=
      let rest := combineFrom op fuel a' b' xs ys
      if op a b == op a' b' then rest else n :: rest
    match xs, ys with
    | [], [] => []
    | x :: xs, [] => pass x (!a) b xs []
    | [], y :: ys => pass y a (!b) [] ys
    | x :: xs, y :: ys =>
      if x < y then pass x (!a) b xs (y :: ys)
      else if y < x then pass y a (!b) (x :: xs) ys
      else pass x (!a) (!b) xs ys

/-- Combines two sets number by number. -/
def combine (op : Bool → Bool → Bool) (xs ys : List Nat) : List Nat :=
  combineFrom op (xs.length + ys.length) false false xs ys

/-- The numbers that are not in the set. -/
def complement : List Nat → List Nat
  | 0 :: xs => xs
  | xs => 0 :: xs

/-- The set of some numbers in strictly ascending order. -/
def ofAscending : List Nat → List Nat
  | [] => []
  | n :: ns =>
    match ofAscending ns with
    | m :: rest => if n + 1 = m then n :: rest else n :: (n + 1) :: m :: rest
    | [] => [n, n + 1]

/-- The members of a set, if they are few. -/
def members? (most : Nat) : List Nat → Option (List Nat)
  | [] => some []
  | [_] => none
  | lo :: hi :: rest =>
    if hi - lo ≤ most then
      (members? (most - (hi - lo)) rest).map ((List.range (hi - lo)).map (lo + ·) ++ ·)
    else none

/-- Adds the characters that differ from a member in case only. A small set is
asked for its members, a large one whether it holds a form of each letter. -/
def closeUnderCase (wide : Bool) (xs : List Nat) : List Nat :=
  match members? 128 xs with
  | some ns =>
    (ns.flatMap fun n => CharClass.variants wide (Char.ofNat n)).foldl
      (fun set c => combine (· || ·) set [c.toNat, c.toNat + 1]) xs
  | none =>
    let set : InversionList := ⟨xs.toArray⟩
    let hasForm (n : Nat) : Bool :=
      (CharClass.variants wide (Char.ofNat n)).any fun c => set.contains c.toNat
    combine (· || ·) xs (ofAscending (casedLetters.filter hasForm))

/-- The characters among all numbers. -/
def characters : List Nat := [0, 0xD800, 0xE000, 0x110000]

/-- The runs of the characters in a set. -/
def runs (xs : List Nat) : List CharRun :=
  let xs := combine (· && ·) xs characters
  -- A set that goes on behind the gap has no run that ends before it.
  if xs.contains 0xD800 && xs.contains 0xE000 then
    pair (xs.filter fun n => n != 0xD800 && n != 0xE000)
  else pair xs
where
  pair : List Nat → List CharRun
    | lo :: hi :: rest => ⟨lo, hi - 1⟩ :: pair rest
    | _ => []

end Places

/-! ## Classes -/

/-- The places where membership in a class changes. -/
def CharClass.places : CharClass → List Nat
  | nothing => []
  | range lo hi => if lo ≤ hi then [lo.toNat, hi.toNat + 1] else []
  | table members => members.bounds.toList
  | union a b => Places.combine (· || ·) a.places b.places
  | inter a b => Places.combine (· && ·) a.places b.places
  | symmDiff a b => Places.combine (· != ·) a.places b.places
  | compl a => Places.complement a.places
  | anyCase wide a => Places.closeUnderCase wide a.places

/-- The runs of a class, in ascending order. -/
def CharClass.runs (a : CharClass) : List CharRun := Places.runs a.places

/-- The runs of what several classes hold together, given the runs of each. -/
def CharRun.union (xss : List (List CharRun)) : List CharRun :=
  Places.runs (xss.foldl (fun set xs =>
    Places.combine (· || ·) set (xs.flatMap fun r => [r.first, r.last + 1])) [])

end GridFilter.Regex
