/-
What changed between two versions of the character database.

Classes in patterns are those of version 16.0. Texts are lower-cased and quoted, and
names of groups are read, by version 17.0. The tables hold the former; this module
has what the latter changed in the few sets that those rules ask for.
-/
import GridFilter.Unicode.PackedTable

set_option autoImplicit false

namespace GridFilter.Unicode

/-- The code points that were not assigned before. -/
def assignedLater : InversionList := InversionList.ofPacked
    "2191 1 972 1 127 1 3570 15 2 12 1493 1 2772 1 31799 2 2 1 1 1 28 1 21457 16 445 2 54 7 2929 26
    1387 3 8 9 33 2 3172 8 584 44 4 10 20662 25 2 25 286 5 6145 8 1289 22 97 115 16135 3 445 23 15
    17 6095 31 1 22 8 2 4056 1 158 4 341 9 379 4 50 1 3 1 57 1 4 1 28 1 4 1 266 1 47935 6 5986 12
    21762 4298"

/-- The code points that became joining marks or are none any more. -/
def joiningChanges : InversionList := InversionList.ofPacked
    "6863 15 2 12 62478 2 3172 1 1 3 1 1 52092 1 2 1 7 2 5 1"

/-- The code points that got case or lost it. -/
def casedChanges : InversionList := InversionList.ofPacked
    "661 1 42296 2 2 1 1 1 28 1 50862 25 2 25"

/-- The code points that case began or ceased to pass over. -/
def caseIgnorableChanges : InversionList := InversionList.ofPacked
    "6863 15 2 12 36101 1 26323 1 52 2 3172 1 1 3 1 1 626 1 21016 2 30447 1 2 1 7 2 5 1 9 1"

/-- The code points that became alphabetic or are not any more. -/
def alphabeticChanges : InversionList := InversionList.ofPacked
    "2191 1 972 1 127 1 39665 2 2 1 1 1 28 1 24910 26 1387 3 50 2 3172 8 584 44 20676 25 2 25 286 5
    6145 8 1289 22 97 115 22733 31 1 22 8 2 53306 6 5986 12 21762 4298"

/-- The code points that became numbers or are none any more. -/
def numberChanges : InversionList := InversionList.ofPacked
    "73184 10 21002 3"

/-- The lower-case letters of letters that had none before. -/
def loweringsAdded : List CaseRun := CaseRun.ofPacked
    "42958 42958 1 42959 42962 42964 2 42963 93856 93880 1 93883"

end GridFilter.Unicode
