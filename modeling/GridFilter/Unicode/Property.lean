/-
Sets of characters by the names of their properties.

Names are compared loosely: letter case, blanks, hyphens and underscores do not
count, nor does a leading "is". A single name may be a property of its own, a
general category or a script, in this order; a name with a value says which
classification is meant.
-/
import GridFilter.Text.Basic
import GridFilter.Unicode.CategoryTable
import GridFilter.Unicode.ScriptTable
import GridFilter.Unicode.AgeTable
import GridFilter.Unicode.BreakTable
import GridFilter.Unicode.PropertyTable

set_option autoImplicit false

namespace GridFilter.Unicode

/-- The form in which names are compared. The name "isc" keeps its beginning,
since the single letter "c" would mean something else. -/
def looseName (name : Text) : String :=
  let (rest, hadIs) := match name with
    | i :: s :: rest => if i.toLower = 'i' ∧ s.toLower = 's' then (rest, true) else (name, false)
    | _ => (name, false)
  let kept := (rest.filter fun c => c != ' ' && c != '_' && c != '-' && c.toNat < 128).map Char.toLower
  if hadIs && kept == ['c'] then "isc" else String.ofList kept

/-- The whole range of code points. -/
def anything : InversionList := ⟨#[0]⟩

/-- The code points of one category or group of categories. -/
def categorySet? (name : String) : Option InversionList :=
  if name == "any" then some anything
  else if name == "ascii" then some ⟨#[0, 128]⟩
  else if name == "assigned" then
    some (categories.select fun k => categoryCodes[k]? != some "Cn")
  else
    (categoryNames.find? (·.1.contains name)).map fun (_, members) =>
      categories.select members.contains

/-- The number of a script. -/
def scriptNumber? (name : String) : Option Nat :=
  scriptNames.findIdx? (·.contains name)

/-- The code points of one script. -/
def scriptSet? (name : String) : Option InversionList :=
  (scriptNumber? name).map fun k => scripts.select (· == k)

/-- Runs of code points that are used with several scripts: first code point,
length, and the scripts' numbers. -/
def scriptExtensions : List (Nat × Nat × List Nat) :=
  let numbers := unpackNumbers packedScriptExtensions
  go numbers.length 0 numbers
where
  go : Nat → Nat → List Nat → List (Nat × Nat × List Nat)
    | fuel + 1, at_, gap :: len :: count :: rest =>
      (at_ + gap, len, rest.take count) :: go fuel (at_ + gap + len) (rest.drop count)
    | _, _, _ => []

/-- The code points used with a script: those with several scripts by their
list, all others by their own script. -/
def scriptExtensionSet? (name : String) : Option InversionList :=
  (scriptNumber? name).map fun k =>
    let cuts := scriptExtensions.flatMap fun (start, len, _) => [start, start + len]
    let bounds := (cuts.toArray ++ scripts.starts).qsort (· < ·)
    let inside (n : Nat) : Bool :=
      match scriptExtensions.find? fun (start, len, _) => start ≤ n ∧ n < start + len with
      | some (_, _, members) => members.contains k
      | none => scripts.classOf n == k
    (Partition.mk bounds (bounds.map fun n => (inside n).toNat)).select (· == 1)

/-- The code points assigned in a version or before it. -/
def ageSet? (name : String) : Option InversionList :=
  (ageNames.findIdx? (·.contains name)).map fun k =>
    ages.select fun age => 0 < age && age ≤ k + 1

/-- The code points of one class of a partition; the names of the classes are
listed from number 1 on. -/
def breakSet? (names : List (List String)) (p : Partition) (name : String) :
    Option InversionList :=
  (names.findIdx? (·.contains name)).map fun k => p.select (· == k + 1)

/-- The code points that have a property. -/
def binarySet? (name : String) : Option InversionList :=
  (binaryProperties.find? (·.1.contains name)).map fun (_, packed) =>
    InversionList.ofPacked packed

/-- The set that a single name stands for. Three names are short for a property
as well as for a category, and mean the category. -/
def namedSet? (name : Text) : Option InversionList :=
  let key := looseName name
  let asProperty := if ["cf", "sc", "lc"].contains key then none else binarySet? key
  asProperty <|> categorySet? key <|> scriptSet? key

/-- The set that a classification and one of its values stand for. -/
def valuedSet? (name value : Text) : Option InversionList :=
  let key := looseName name
  let value := looseName value
  if ["gc", "generalcategory"].contains key then categorySet? value
  else if ["sc", "script"].contains key then scriptSet? value
  else if ["scx", "scriptextensions"].contains key then scriptExtensionSet? value
  else if key == "age" then ageSet? value
  else if ["gcb", "graphemeclusterbreak"].contains key then
    breakSet? graphemeBreakNames graphemeBreaks value
  else if ["wb", "wordbreak"].contains key then breakSet? wordBreakNames wordBreaks value
  else if ["sb", "sentencebreak"].contains key then
    breakSet? sentenceBreakNames sentenceBreaks value
  else none

end GridFilter.Unicode
