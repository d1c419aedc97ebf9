/-
General categories of the code points.

Every code point has exactly one category, so the table is a partition: runs of
code points with the number of their category, in the order of the codes below.
The names are written as they are compared, in lower case and without blanks,
hyphens and underscores. A group such as "letter" is the list of its categories.
-/
import GridFilter.Unicode.PackedTable

set_option autoImplicit false

namespace GridFilter.Unicode

/-- Two-letter codes of the categories, in the order of their numbers. -/
def categoryCodes : List String :=
  ["Cc", "Cf", "Cn", "Co", "Cs", "Ll", "Lm", "Lo", "Lt", "Lu", "Mc", "Me", "Mn", "Nd", "Nl", "No",
  "Pc", "Pd", "Pe", "Pf", "Pi", "Po", "Ps", "Sc", "Sk", "Sm", "So", "Zl", "Zp", "Zs"]

/-- The category number of every code point. -/
def categories : Partition := Partition.ofPacked
    "32 0 1 29 3 21 1 23 3 21 1 22 1 18 1 21 1 25 1 21 1 17 2 21 10 13 2 21 3 25 2 21 26 9 1 22 1 21
    1 18 1 24 1 16 1 24 26 5 1 22 1 25 1 18 1 25 33 0 1 29 1 21 4 23 1 26 1 21 1 24 1 26 1 7 1 20 1
    25 1 1 1 26 1 24 1 26 1 25 2 15 1 24 1 5 2 21 1 24 1 15 1 7 1 19 3 15 1 21 23 9 1 25 7 9 24 5 1
    25 8 5 1 9 1 5 1 9 1 5 1 9 1 5 1 9 1 5 1 9 1 5 1 9 1 5 1 9 1 5 1 9 1 5 1 9 1 5 1 9 1 5 1 9 1 5 1
    9 1 5 1 9 1 5 1 9 1 5 1 9 1 5 1 9 1 5 1 9 1 5 1 9 1 5 1 9 1 5 1 9 1 5 1 9 1 5 1 9 1 5 1 9 1 5 1
    9 1 5 1 9 1 5 1 9 1 5 1 9 1 5 1 9 2 5 1 9 1 5 1 9 1 5 1 9 1 5 1 9 1 5 1 9 1 5 1 9 1 5 1 9 1 5 1
    9 2 5 1 9 1 5 1 9 1 5 1 9 1 5 1 9 1 5 1 9 1 5 1 9 1 5 1 9 1 5 1 9 1 5 1 9 1 5 1 9 1 5 1 9 1 5 1
    9 1 5 1 9 1 5 1 9 1 5 1 9 1 5 1 9 1 5 1 9 1 5 1 9 1 5 1 9 1 5 1 9 1 5 1 9 1 5 1 9 1 5 1 9 1 5 2
    9 1 5 1 9 1 5 1 9 3 5 2 9 1 5 1 9 1 5 2 9 1 5 3 9 2 5 4 9 1 5 2 9 1 5 3 9 3 5 2 9 1 5 2 9 1 5 1
    9 1 5 1 9 1 5 2 9 1 5 1 9 2 5 1 9 1 5 2 9 1 5 3 9 1 5 1 9 1 5 2 9 2 5 1 7 1 9 3 5 4 7 1 9 1 8 1
    5 1 9 1 8 1 5 1 9 1 8 1 5 1 9 1 5 1 9 1 5 1 9 1 5 1 9 1 5 1 9 1 5 1 9 1 5 1 9 1 5 1 9 2 5 1 9 1
    5 1 9 1 5 1 9 1 5 1 9 1 5 1 9 1 5 1 9 1 5 1 9 1 5 1 9 1 5 1 9 2 5 1 9 1 8 1 5 1 9 1 5 3 9 1 5 1
    9 1 5 1 9 1 5 1 9 1 5 1 9 1 5 1 9 1 5 1 9 1 5 1 9 1 5 1 9 1 5 1 9 1 5 1 9 1 5 1 9 1 5 1 9 1 5 1
    9 1 5 1 9 1 5 1 9 1 5 1 9 1 5 1 9 1 5 1 9 1 5 1 9 1 5 1 9 1 5 1 9 1 5 1 9 1 5 1 9 1 5 1 9 1 5 1
    9 1 5 1 9 1 5 1 9 1 5 1 9 1 5 1 9 7 5 2 9 1 5 2 9 2 5 1 9 1 5 4 9 1 5 1 9 1 5 1 9 1 5 1 9 1 5 1
    9 69 5 1 7 27 5 18 6 4 24 12 6 14 24 5 6 7 24 1 6 1 24 1 6 17 24 112 12 1 9 1 5 1 9 1 5 1 6 1 24
    1 9 1 5 2 2 1 6 3 5 1 21 1 9 4 2 2 24 1 9 1 21 3 9 1 2 1 9 1 2 2 9 1 5 17 9 1 2 9 9 35 5 1 9 2 5
    3 9 3 5 1 9 1 5 1 9 1 5 1 9 1 5 1 9 1 5 1 9 1 5 1 9 1 5 1 9 1 5 1 9 1 5 1 9 1 5 1 9 1 5 1 9 1 5
    1 9 5 5 1 9 1 5 1 25 1 9 1 5 2 9 2 5 51 9 48 5 1 9 1 5 1 9 1 5 1 9 1 5 1 9 1 5 1 9 1 5 1 9 1 5 1
    9 1 5 1 9 1 5 1 9 1 5 1 9 1 5 1 9 1 5 1 9 1 5 1 9 1 5 1 9 1 5 1 9 1 5 1 9 1 5 1 9 1 5 1 26 5 12
    2 11 1 9 1 5 1 9 1 5 1 9 1 5 1 9 1 5 1 9 1 5 1 9 1 5 1 9 1 5 1 9 1 5 1 9 1 5 1 9 1 5 1 9 1 5 1 9
    1 5 1 9 1 5 1 9 1 5 1 9 1 5 1 9 1 5 1 9 1 5 1 9 1 5 1 9 1 5 1 9 1 5 1 9 1 5 1 9 1 5 1 9 1 5 1 9
    1 5 1 9 1 5 1 9 1 5 1 9 1 5 2 9 1 5 1 9 1 5 1 9 1 5 1 9 1 5 1 9 1 5 1 9 1 5 1 9 2 5 1 9 1 5 1 9
    1 5 1 9 1 5 1 9 1 5 1 9 1 5 1 9 1 5 1 9 1 5 1 9 1 5 1 9 1 5 1 9 1 5 1 9 1 5 1 9 1 5 1 9 1 5 1 9
    1 5 1 9 1 5 1 9 1 5 1 9 1 5 1 9 1 5 1 9 1 5 1 9 1 5 1 9 1 5 1 9 1 5 1 9 1 5 1 9 1 5 1 9 1 5 1 9
    1 5 1 9 1 5 1 9 1 5 1 9 1 5 1 9 1 5 1 9 1 5 1 9 1 5 1 9 1 5 1 9 1 5 1 9 1 5 1 9 1 5 1 9 1 5 1 9
    1 5 1 9 1 5 1 9 1 5 1 9 1 5 1 9 1 5 1 9 1 5 1 9 1 5 1 9 1 5 1 9 1 5 1 9 1 5 1 9 1 5 1 2 38 9 2 2
    1 6 6 21 41 5 1 21 1 17 2 2 2 26 1 23 1 2 45 12 1 17 1 12 1 21 2 12 1 21 2 12 1 21 1 12 8 2 27 7
    4 2 4 7 2 21 11 2 6 1 3 25 2 21 1 23 2 21 2 26 11 12 1 21 1 1 3 21 32 7 1 6 10 7 21 12 10 13 4
    21 2 7 1 12 99 7 1 21 1 7 7 12 1 1 1 26 6 12 2 6 2 12 1 26 4 12 2 7 10 13 3 7 2 26 1 7 14 21 1 2
    1 1 1 7 1 12 30 7 27 12 2 2 89 7 11 12 1 7 14 2 10 13 33 7 9 12 2 6 1 26 3 21 1 6 2 2 1 12 2 23
    22 7 4 12 1 6 9 12 1 6 3 12 1 6 5 12 2 2 15 21 1 2 25 7 3 12 2 2 1 21 1 2 11 7 5 2 24 7 1 24 6 7
    1 2 2 1 5 2 9 12 41 7 1 6 24 12 1 1 32 12 1 10 54 7 1 12 1 10 1 12 1 7 3 10 8 12 4 10 1 12 2 10
    1 7 7 12 10 7 2 12 2 21 10 13 1 21 1 6 15 7 1 12 2 10 1 2 8 7 2 2 2 7 2 2 22 7 1 2 7 7 1 2 1 7 3
    2 4 7 2 2 1 12 1 7 3 10 4 12 2 2 2 10 2 2 2 10 1 12 1 7 8 2 1 10 4 2 2 7 1 2 3 7 2 12 2 2 10 13
    2 7 2 23 6 15 1 26 1 23 1 7 1 21 1 12 2 2 2 12 1 10 1 2 6 7 4 2 2 7 2 2 22 7 1 2 7 7 1 2 2 7 1 2
    2 7 1 2 2 7 2 2 1 12 1 2 3 10 2 12 4 2 2 12 2 2 3 12 3 2 1 12 7 2 4 7 1 2 1 7 7 2 10 13 2 12 3 7
    1 12 1 21 10 2 2 12 1 10 1 2 9 7 1 2 3 7 1 2 22 7 1 2 7 7 1 2 2 7 1 2 5 7 2 2 1 12 1 7 3 10 5 12
    1 2 2 12 1 10 1 2 2 10 1 12 2 2 1 7 15 2 2 7 2 12 2 2 10 13 1 21 1 23 7 2 1 7 6 12 1 2 1 12 2 10
    1 2 8 7 2 2 2 7 2 2 22 7 1 2 7 7 1 2 2 7 1 2 5 7 2 2 1 12 1 7 1 10 1 12 1 10 4 12 2 2 2 10 2 2 2
    10 1 12 7 2 2 12 1 10 4 2 2 7 1 2 3 7 2 12 2 2 10 13 1 26 1 7 6 15 10 2 1 12 1 7 1 2 6 7 3 2 3 7
    1 2 4 7 3 2 2 7 1 2 1 7 1 2 2 7 3 2 2 7 3 2 3 7 3 2 12 7 4 2 2 10 1 12 2 10 3 2 3 10 1 2 3 10 1
    12 2 2 1 7 6 2 1 10 14 2 10 13 3 15 6 26 1 23 1 26 5 2 1 12 3 10 1 12 8 7 1 2 3 7 1 2 23 7 1 2
    16 7 2 2 1 12 1 7 3 12 4 10 1 2 3 12 1 2 4 12 7 2 2 12 1 2 3 7 2 2 1 7 2 2 2 7 2 12 2 2 10 13 7
    2 1 21 7 15 1 26 1 7 1 12 2 10 1 21 8 7 1 2 3 7 1 2 23 7 1 2 10 7 1 2 5 7 2 2 1 12 1 7 1 10 1 12
    5 10 1 2 1 12 2 10 1 2 2 10 2 12 7 2 2 10 6 2 2 7 1 2 2 7 2 12 2 2 10 13 1 2 2 7 1 10 12 2 2 12
    2 10 9 7 1 2 3 7 1 2 41 7 2 12 1 7 3 10 4 12 1 2 3 10 1 2 3 10 1 12 1 7 1 26 4 2 3 7 1 10 7 15 3
    7 2 12 2 2 10 13 9 15 1 26 6 7 1 2 1 12 2 10 1 2 18 7 3 2 24 7 1 2 9 7 1 2 1 7 2 2 7 7 3 2 1 12
    4 2 3 10 3 12 1 2 1 12 1 2 8 10 6 2 10 13 2 2 2 10 1 21 12 2 48 7 1 12 2 7 7 12 4 2 1 23 6 7 1 6
    8 12 1 21 10 13 2 21 37 2 2 7 1 2 1 7 1 2 5 7 1 2 24 7 1 2 1 7 1 2 10 7 1 12 2 7 9 12 1 7 2 2 5
    7 1 2 1 6 1 2 7 12 1 2 10 13 2 2 4 7 32 2 1 7 3 26 15 21 1 26 1 21 3 26 2 12 6 26 10 13 10 15 1
    26 1 12 1 26 1 12 1 26 1 12 1 22 1 18 1 22 1 18 2 10 8 7 1 2 36 7 4 2 14 12 1 10 5 12 1 21 2 12
    5 7 11 12 1 2 36 12 1 2 8 26 1 12 6 26 1 2 2 26 5 21 4 26 2 21 37 2 43 7 2 10 4 12 1 10 6 12 1
    10 2 12 2 10 2 12 1 7 10 13 6 21 6 7 2 10 2 12 4 7 3 12 1 7 3 10 2 7 7 10 3 7 4 12 13 7 1 12 2
    10 2 12 6 10 1 12 1 7 1 10 10 13 3 10 1 12 2 26 38 9 1 2 1 9 5 2 1 9 2 2 43 5 1 21 1 6 3 5 329 7
    1 2 4 7 2 2 7 7 1 2 1 7 1 2 4 7 2 2 41 7 1 2 4 7 2 2 33 7 1 2 4 7 2 2 7 7 1 2 1 7 1 2 4 7 2 2 15
    7 1 2 57 7 1 2 4 7 2 2 67 7 2 2 3 12 9 21 20 15 3 2 16 7 10 26 6 2 86 9 2 2 6 5 2 2 1 17 620 7 1
    26 1 21 17 7 1 29 26 7 1 22 1 18 3 2 75 7 3 21 3 14 8 7 7 2 18 7 3 12 1 10 9 2 19 7 2 12 1 10 2
    21 9 2 18 7 2 12 12 2 13 7 1 2 3 7 1 2 2 12 12 2 52 7 2 12 1 10 7 12 8 10 1 12 2 10 11 12 3 21 1
    6 3 21 1 23 1 7 1 12 2 2 10 13 6 2 10 15 6 2 6 21 1 17 4 21 3 12 1 1 1 12 10 13 6 2 35 7 1 6 53
    7 7 2 5 7 2 12 34 7 1 12 1 7 5 2 70 7 10 2 31 7 1 2 3 12 4 10 2 12 3 10 4 2 2 10 1 12 6 10 3 12
    4 2 1 26 3 2 2 21 10 13 30 7 2 2 5 7 11 2 44 7 4 2 26 7 6 2 10 13 1 15 3 2 34 26 23 7 2 12 2 10
    1 12 2 2 2 21 53 7 1 10 1 12 1 10 7 12 1 2 1 12 1 10 1 12 2 10 8 12 6 10 10 12 2 2 1 12 10 13 6
    2 10 13 6 2 7 21 1 6 6 21 2 2 14 12 1 11 16 12 49 2 4 12 1 10 47 7 1 12 1 10 5 12 1 10 1 12 5 10
    1 12 2 10 8 7 1 2 2 21 10 13 7 21 10 26 9 12 9 26 3 21 2 12 1 10 30 7 1 10 4 12 2 10 2 12 1 10 3
    12 2 7 10 13 44 7 1 12 1 10 2 12 3 10 1 12 1 10 3 12 2 10 8 2 4 21 36 7 8 10 8 12 2 10 2 12 3 2
    5 21 10 13 3 2 3 7 10 13 30 7 6 6 2 21 9 5 1 9 1 5 5 2 43 9 2 2 3 9 8 21 8 2 3 12 1 21 13 12 1
    10 7 12 4 7 1 12 6 7 1 12 2 7 1 10 2 12 1 7 5 2 44 5 63 6 13 5 1 6 34 5 37 6 64 12 1 9 1 5 1 9 1
    5 1 9 1 5 1 9 1 5 1 9 1 5 1 9 1 5 1 9 1 5 1 9 1 5 1 9 1 5 1 9 1 5 1 9 1 5 1 9 1 5 1 9 1 5 1 9 1
    5 1 9 1 5 1 9 1 5 1 9 1 5 1 9 1 5 1 9 1 5 1 9 1 5 1 9 1 5 1 9 1 5 1 9 1 5 1 9 1 5 1 9 1 5 1 9 1
    5 1 9 1 5 1 9 1 5 1 9 1 5 1 9 1 5 1 9 1 5 1 9 1 5 1 9 1 5 1 9 1 5 1 9 1 5 1 9 1 5 1 9 1 5 1 9 1
    5 1 9 1 5 1 9 1 5 1 9 1 5 1 9 1 5 1 9 1 5 1 9 1 5 1 9 1 5 1 9 1 5 1 9 1 5 1 9 1 5 1 9 1 5 1 9 1
    5 1 9 1 5 1 9 1 5 1 9 1 5 1 9 1 5 1 9 1 5 1 9 1 5 1 9 1 5 1 9 1 5 1 9 1 5 1 9 1 5 1 9 1 5 1 9 1
    5 1 9 1 5 1 9 1 5 1 9 1 5 1 9 1 5 1 9 1 5 1 9 1 5 1 9 1 5 1 9 1 5 1 9 1 5 1 9 1 5 1 9 1 5 1 9 1
    5 1 9 9 5 1 9 1 5 1 9 1 5 1 9 1 5 1 9 1 5 1 9 1 5 1 9 1 5 1 9 1 5 1 9 1 5 1 9 1 5 1 9 1 5 1 9 1
    5 1 9 1 5 1 9 1 5 1 9 1 5 1 9 1 5 1 9 1 5 1 9 1 5 1 9 1 5 1 9 1 5 1 9 1 5 1 9 1 5 1 9 1 5 1 9 1
    5 1 9 1 5 1 9 1 5 1 9 1 5 1 9 1 5 1 9 1 5 1 9 1 5 1 9 1 5 1 9 1 5 1 9 1 5 1 9 1 5 1 9 1 5 1 9 1
    5 1 9 1 5 1 9 1 5 1 9 1 5 1 9 1 5 1 9 1 5 1 9 1 5 1 9 1 5 1 9 1 5 1 9 1 5 1 9 1 5 1 9 1 5 1 9 1
    5 1 9 1 5 1 9 9 5 8 9 6 5 2 2 6 9 2 2 8 5 8 9 8 5 8 9 6 5 2 2 6 9 2 2 8 5 1 2 1 9 1 2 1 9 1 2 1
    9 1 2 1 9 8 5 8 9 14 5 2 2 8 5 8 8 8 5 8 8 8 5 8 8 5 5 1 2 2 5 4 9 1 8 1 24 1 5 3 24 3 5 1 2 2 5
    4 9 1 8 3 24 4 5 2 2 2 5 4 9 1 2 3 24 8 5 5 9 3 24 2 2 3 5 1 2 2 5 4 9 1 8 2 24 1 2 11 29 5 1 6
    17 2 21 1 20 1 19 1 22 2 20 1 19 1 22 1 20 8 21 1 27 1 28 5 1 1 29 9 21 1 20 1 19 4 21 2 16 3 21
    1 25 1 22 1 18 11 21 1 25 1 21 1 16 10 21 1 29 5 1 1 2 10 1 1 15 1 6 2 2 6 15 3 25 1 22 1 18 1 6
    10 15 3 25 1 22 1 18 1 2 13 6 3 2 33 23 15 2 13 12 4 11 1 12 3 11 12 12 15 2 2 26 1 9 4 26 1 9 2
    26 1 5 3 9 2 5 3 9 1 5 1 26 1 9 2 26 1 25 5 9 6 26 1 9 1 26 1 9 1 26 1 9 1 26 4 9 1 26 1 5 4 9 1
    5 4 7 1 5 2 26 2 5 2 9 5 25 1 9 4 5 1 26 1 25 2 26 1 5 1 26 16 15 35 14 1 9 1 5 4 14 1 15 2 26 4
    2 5 25 5 26 2 25 4 26 1 25 2 26 1 25 2 26 1 25 7 26 1 25 31 26 2 25 2 26 1 25 1 26 1 25 31 26
    268 25 8 26 1 22 1 18 1 22 1 18 20 26 2 25 7 26 1 22 1 18 81 26 1 25 30 26 25 25 40 26 6 25 72
    26 22 2 11 26 21 2 60 15 78 26 22 15 183 26 1 25 9 26 1 25 54 26 8 25 111 26 1 25 248 26 1 22 1
    18 1 22 1 18 1 22 1 18 1 22 1 18 1 22 1 18 1 22 1 18 1 22 1 18 30 15 44 26 5 25 1 22 1 18 31 25
    1 22 1 18 1 22 1 18 1 22 1 18 1 22 1 18 1 22 1 18 16 25 256 26 131 25 1 22 1 18 1 22 1 18 1 22 1
    18 1 22 1 18 1 22 1 18 1 22 1 18 1 22 1 18 1 22 1 18 1 22 1 18 1 22 1 18 1 22 1 18 63 25 1 22 1
    18 1 22 1 18 32 25 1 22 1 18 258 25 48 26 21 25 2 26 6 25 39 26 2 2 32 26 1 2 105 26 48 9 48 5 1
    9 1 5 3 9 2 5 1 9 1 5 1 9 1 5 1 9 1 5 4 9 1 5 1 9 2 5 1 9 6 5 2 6 3 9 1 5 1 9 1 5 1 9 1 5 1 9 1
    5 1 9 1 5 1 9 1 5 1 9 1 5 1 9 1 5 1 9 1 5 1 9 1 5 1 9 1 5 1 9 1 5 1 9 1 5 1 9 1 5 1 9 1 5 1 9 1
    5 1 9 1 5 1 9 1 5 1 9 1 5 1 9 1 5 1 9 1 5 1 9 1 5 1 9 1 5 1 9 1 5 1 9 1 5 1 9 1 5 1 9 1 5 1 9 1
    5 1 9 1 5 1 9 1 5 1 9 1 5 1 9 1 5 1 9 1 5 1 9 1 5 1 9 1 5 1 9 1 5 1 9 1 5 1 9 1 5 1 9 1 5 1 9 1
    5 1 9 1 5 1 9 1 5 1 9 1 5 1 9 1 5 1 9 1 5 1 9 1 5 1 9 1 5 1 9 1 5 1 9 1 5 1 9 2 5 6 26 1 9 1 5 1
    9 1 5 3 12 1 9 1 5 5 2 4 21 1 15 2 21 38 5 1 2 1 5 5 2 1 5 2 2 56 7 7 2 1 6 1 21 14 2 1 12 23 7
    9 2 7 7 1 2 7 7 1 2 7 7 1 2 7 7 1 2 7 7 1 2 7 7 1 2 7 7 1 2 7 7 1 2 32 12 2 21 1 20 1 19 1 20 1
    19 3 21 1 20 1 19 1 21 1 20 1 19 9 21 1 17 2 21 1 17 1 21 1 20 1 19 2 21 1 20 1 19 1 22 1 18 1
    22 1 18 1 22 1 18 1 22 1 18 5 21 1 6 10 21 2 17 4 21 1 17 1 21 1 22 13 21 2 26 3 21 1 22 1 18 1
    22 1 18 1 22 1 18 1 22 1 18 1 17 34 2 26 26 1 2 89 26 12 2 214 26 26 2 16 26 1 29 3 21 1 26 1 6
    1 7 1 14 1 22 1 18 1 22 1 18 1 22 1 18 1 22 1 18 1 22 1 18 2 26 1 22 1 18 1 22 1 18 1 22 1 18 1
    22 1 18 1 17 1 22 2 18 1 26 9 14 4 12 2 10 1 17 5 6 2 26 3 14 1 6 1 7 1 21 2 26 1 2 86 7 2 2 2
    12 2 24 2 6 1 7 1 17 90 7 1 21 3 6 1 7 5 2 43 7 1 2 94 7 1 2 2 26 4 15 10 26 32 7 38 26 9 2 1 26
    16 7 31 26 1 2 10 15 30 26 8 15 1 26 15 15 32 26 10 15 39 26 15 15 320 26 6592 7 64 26 21013 7 1
    6 1143 7 3 2 55 26 9 2 40 7 6 6 2 21 268 7 1 6 3 21 16 7 10 13 2 7 20 2 1 9 1 5 1 9 1 5 1 9 1 5
    1 9 1 5 1 9 1 5 1 9 1 5 1 9 1 5 1 9 1 5 1 9 1 5 1 9 1 5 1 9 1 5 1 9 1 5 1 9 1 5 1 9 1 5 1 9 1 5
    1 9 1 5 1 9 1 5 1 9 1 5 1 9 1 5 1 9 1 5 1 9 1 5 1 9 1 5 1 9 1 5 1 7 1 12 3 11 1 21 10 12 1 21 1
    6 1 9 1 5 1 9 1 5 1 9 1 5 1 9 1 5 1 9 1 5 1 9 1 5 1 9 1 5 1 9 1 5 1 9 1 5 1 9 1 5 1 9 1 5 1 9 1
    5 1 9 1 5 1 9 1 5 2 6 2 12 70 7 10 14 2 12 6 21 8 2 23 24 9 6 2 24 1 9 1 5 1 9 1 5 1 9 1 5 1 9 1
    5 1 9 1 5 1 9 1 5 1 9 3 5 1 9 1 5 1 9 1 5 1 9 1 5 1 9 1 5 1 9 1 5 1 9 1 5 1 9 1 5 1 9 1 5 1 9 1
    5 1 9 1 5 1 9 1 5 1 9 1 5 1 9 1 5 1 9 1 5 1 9 1 5 1 9 1 5 1 9 1 5 1 9 1 5 1 9 1 5 1 9 1 5 1 9 1
    5 1 9 1 5 1 9 1 5 1 9 1 5 1 9 1 5 1 9 1 5 1 9 1 5 1 9 1 5 1 9 1 5 1 9 1 5 1 9 1 5 1 6 8 5 1 9 1
    5 1 9 1 5 2 9 1 5 1 9 1 5 1 9 1 5 1 9 1 5 1 9 1 5 1 6 2 24 1 9 1 5 1 9 1 5 1 7 1 9 1 5 1 9 3 5 1
    9 1 5 1 9 1 5 1 9 1 5 1 9 1 5 1 9 1 5 1 9 1 5 1 9 1 5 1 9 1 5 1 9 1 5 1 9 1 5 5 9 1 5 5 9 1 5 1
    9 1 5 1 9 1 5 1 9 1 5 1 9 1 5 1 9 1 5 1 9 1 5 1 9 1 5 4 9 1 5 1 9 1 5 2 9 1 5 2 2 1 9 1 5 1 2 1
    5 1 2 1 5 1 9 1 5 1 9 1 5 1 9 1 5 1 9 21 2 3 6 1 9 1 5 1 7 2 6 1 5 7 7 1 12 3 7 1 12 4 7 1 12 23
    7 2 10 2 12 1 10 4 26 1 12 3 2 6 15 2 26 1 23 1 26 6 2 52 7 4 21 8 2 2 10 50 7 16 10 2 12 8 2 2
    21 10 13 6 2 18 12 6 7 3 21 1 7 1 21 2 7 1 12 10 13 28 7 8 12 2 21 23 7 11 12 2 10 11 2 1 21 29
    7 3 2 3 12 1 10 47 7 1 12 2 10 4 12 2 10 2 12 3 10 13 21 1 2 1 6 10 13 4 2 2 21 5 7 1 12 1 6 9 7
    10 13 5 7 1 2 41 7 6 12 2 10 2 12 2 10 2 12 9 2 3 7 1 12 8 7 1 12 1 10 2 2 10 13 2 2 4 21 16 7 1
    6 6 7 3 26 1 7 1 10 1 12 1 10 50 7 1 12 1 7 3 12 2 7 2 12 5 7 2 12 1 7 1 12 1 7 24 2 2 7 1 6 2
    21 11 7 1 10 2 12 2 10 2 21 1 7 2 6 1 10 1 12 10 2 6 7 2 2 6 7 2 2 6 7 9 2 7 7 1 2 7 7 1 2 43 5
    1 24 4 6 9 5 1 6 2 24 4 2 80 5 35 7 2 10 1 12 2 10 1 12 2 10 1 21 1 10 1 12 2 2 10 13 6 2 11172
    7 12 2 23 7 4 2 49 7 4 2 2048 4 6400 3 366 7 2 2 106 7 38 2 7 5 12 2 5 5 5 2 1 7 1 12 10 7 1 25
    13 7 1 2 5 7 1 2 1 7 1 2 2 7 1 2 2 7 1 2 108 7 17 24 16 2 363 7 1 18 1 22 16 26 64 7 2 2 54 7 7
    2 1 26 32 2 12 7 1 23 3 26 16 12 7 21 1 22 1 18 1 21 6 2 16 12 1 21 2 17 2 16 1 22 1 18 1 22 1
    18 1 22 1 18 1 22 1 18 1 22 1 18 1 22 1 18 1 22 1 18 1 22 1 18 2 21 1 22 1 18 4 21 3 16 3 21 1 2
    4 21 1 17 1 22 1 18 1 22 1 18 1 22 1 18 3 21 1 25 1 17 3 25 1 2 1 21 1 23 2 21 4 2 5 7 1 2 135 7
    2 2 1 1 1 2 3 21 1 23 3 21 1 22 1 18 1 21 1 25 1 21 1 17 2 21 10 13 2 21 3 25 2 21 26 9 1 22 1
    21 1 18 1 24 1 16 1 24 26 5 1 22 1 25 1 18 1 25 1 22 1 18 1 21 1 22 1 18 2 21 10 7 1 6 45 7 2 6
    31 7 3 2 6 7 2 2 6 7 2 2 6 7 2 2 3 7 3 2 2 23 1 25 1 24 1 26 2 23 1 2 1 26 4 25 2 26 10 2 3 1 2
    26 2 2 12 7 1 2 26 7 1 2 19 7 1 2 2 7 1 2 15 7 2 2 14 7 34 2 123 7 5 2 3 21 4 2 45 15 3 2 9 26
    53 14 4 15 17 26 2 15 3 26 1 2 13 26 3 2 1 26 47 2 45 26 1 12 130 2 29 7 3 2 49 7 15 2 1 12 27
    15 4 2 32 7 4 15 9 2 20 7 1 14 8 7 1 14 5 2 38 7 5 12 5 2 30 7 1 2 1 21 36 7 4 2 8 7 1 21 5 14
    42 2 40 9 40 5 78 7 2 2 10 13 6 2 36 9 4 2 36 5 4 2 40 7 8 2 52 7 11 2 1 21 11 9 1 2 15 9 1 2 7
    9 1 2 2 9 1 2 11 5 1 2 15 5 1 2 7 5 1 2 2 5 3 2 52 7 12 2 311 7 9 2 22 7 10 2 8 7 24 2 6 6 1 2
    42 6 1 2 9 6 69 2 6 7 2 2 1 7 1 2 44 7 1 2 2 7 3 2 1 7 2 2 23 7 1 2 1 21 8 15 23 7 2 26 7 15 31
    7 8 2 9 15 48 2 19 7 1 2 2 7 5 2 5 15 22 7 6 15 3 2 1 21 26 7 5 2 1 21 64 2 56 7 4 2 2 15 2 7 16
    15 2 2 46 15 1 7 3 12 1 2 2 12 5 2 4 12 4 7 1 2 3 7 1 2 29 7 2 2 3 12 4 2 1 12 9 15 7 2 9 21 7 2
    29 7 2 15 1 21 29 7 3 15 32 2 8 7 1 26 28 7 2 12 4 2 5 15 7 21 9 2 54 7 3 2 7 21 22 7 2 2 8 15
    19 7 5 2 8 15 18 7 7 2 4 21 12 2 7 15 80 2 73 7 55 2 51 9 13 2 51 5 7 2 6 15 36 7 4 12 8 2 10 13
    6 2 10 13 4 7 1 6 1 7 22 9 3 2 5 12 1 17 1 6 22 5 8 2 2 25 208 2 31 15 1 2 42 7 1 2 2 12 1 17 2
    2 2 7 16 2 3 7 55 2 4 12 29 7 10 15 1 7 8 2 22 7 11 12 4 15 5 21 22 2 18 7 4 12 4 21 38 2 21 7 7
    15 20 2 23 7 9 2 1 10 1 12 1 10 53 7 15 12 7 21 4 2 20 15 10 13 1 12 2 7 2 12 1 7 9 2 3 12 1 10
    45 7 3 10 4 12 2 10 2 12 2 21 1 1 4 21 1 12 10 2 1 1 2 2 25 7 7 2 10 13 6 2 3 12 36 7 5 12 1 10
    8 12 1 2 10 13 4 21 1 7 2 10 1 7 8 2 35 7 1 12 2 21 1 7 9 2 2 12 1 10 48 7 3 10 9 12 2 10 4 7 4
    21 4 12 1 21 1 10 1 12 10 13 1 7 1 21 1 7 3 21 1 2 20 15 11 2 18 7 1 2 25 7 3 10 3 12 2 10 1 12
    1 10 2 12 6 21 1 12 2 7 1 12 62 2 7 7 1 2 1 7 1 2 4 7 1 2 15 7 1 2 10 7 1 21 6 2 47 7 1 12 3 10
    8 12 5 2 10 13 6 2 2 12 2 10 1 2 8 7 2 2 2 7 2 2 22 7 1 2 7 7 1 2 2 7 1 2 5 7 1 2 2 12 1 7 2 10
    1 12 4 10 2 2 2 10 2 2 3 10 2 2 1 7 6 2 1 10 5 2 5 7 2 10 2 2 7 12 3 2 5 12 11 2 10 7 1 2 1 7 2
    2 1 7 1 2 38 7 1 2 1 7 3 10 6 12 1 2 1 10 2 2 1 10 1 2 4 10 1 2 2 10 1 12 1 10 1 12 1 7 1 12 1 7
    2 21 1 2 2 21 8 2 2 12 29 2 53 7 3 10 8 12 2 10 3 12 1 10 1 12 4 7 5 21 10 13 2 21 1 2 1 21 1 12
    3 7 30 2 48 7 3 10 6 12 1 10 1 12 4 10 2 12 1 10 2 12 2 7 1 21 1 7 8 2 10 13 166 2 47 7 3 10 4
    12 2 2 4 10 2 12 1 10 2 12 23 21 4 7 2 12 34 2 48 7 3 10 8 12 2 10 1 12 1 10 2 12 3 21 1 7 11 2
    10 13 6 2 13 21 19 2 43 7 1 12 1 10 1 12 2 10 6 12 1 10 1 12 1 7 1 21 6 2 10 13 6 2 20 13 28 2
    27 7 2 2 1 12 1 10 1 12 2 10 4 12 1 10 5 12 4 2 10 13 2 15 3 21 1 26 7 7 185 2 44 7 3 10 9 12 1
    10 2 12 1 21 100 2 32 9 32 5 10 13 9 15 12 2 8 7 2 2 1 7 2 2 8 7 1 2 2 7 1 2 24 7 6 10 1 2 2 10
    2 2 2 12 1 10 1 12 1 7 1 10 1 7 1 10 1 12 3 21 9 2 10 13 70 2 8 7 2 2 39 7 3 10 4 12 2 2 2 12 4
    10 1 12 1 7 1 21 1 7 1 10 27 2 1 7 10 12 40 7 6 12 1 10 1 7 4 12 8 21 1 12 8 2 1 7 6 12 2 10 3
    12 46 7 13 12 1 10 2 12 3 21 1 7 5 21 13 2 73 7 7 2 10 21 182 2 33 7 1 21 14 2 10 13 6 2 9 7 1 2
    37 7 1 10 7 12 1 2 6 12 1 10 1 12 1 7 5 21 10 2 10 13 19 15 3 2 2 21 30 7 2 2 22 12 1 2 1 10 7
    12 1 10 2 12 1 10 2 12 73 2 7 7 1 2 2 7 1 2 38 7 6 12 3 2 1 12 1 2 2 12 1 2 7 12 1 7 1 12 8 2 10
    13 6 2 6 7 1 2 2 7 1 2 32 7 5 10 1 2 2 12 1 2 2 10 1 12 1 10 1 12 1 7 7 2 10 13 310 2 19 7 2 12
    2 10 2 21 7 2 2 12 1 7 1 10 13 7 1 2 34 7 2 10 5 12 3 2 2 10 1 12 1 10 1 12 13 21 10 13 1 12 85
    2 1 7 15 2 21 15 8 26 4 23 17 26 13 2 1 21 922 7 102 2 111 14 1 2 5 21 11 2 196 7 2636 2 97 7 2
    21 13 2 1072 7 16 1 1 12 6 7 15 12 10 2 3995 7 5 2 583 7 6841 2 30 7 12 12 3 10 3 12 10 13 1734
    2 569 7 7 2 31 7 1 2 10 13 4 2 2 21 79 7 1 2 10 13 6 2 30 7 2 2 5 12 1 21 10 2 48 7 7 12 5 21 4
    26 4 6 1 21 1 26 10 2 10 13 1 2 7 15 1 2 21 7 5 2 19 7 432 2 3 6 40 7 2 6 3 21 10 13 198 2 32 9
    32 5 23 15 4 21 101 2 75 7 4 2 1 12 1 7 55 10 7 2 4 12 13 6 64 2 2 6 1 21 1 6 1 12 11 2 2 10 14
    2 6136 7 8 2 1238 7 41 2 10 7 8935 2 4 6 1 2 7 6 1 2 2 6 1 2 291 7 15 2 1 7 29 2 3 7 2 2 1 7 14
    2 4 7 8 2 396 7 2308 2 107 7 5 2 13 7 3 2 9 7 7 2 10 7 2 2 1 26 2 12 1 21 4 1 3932 2 240 26 10
    13 6 2 436 26 76 2 46 12 2 2 23 12 9 2 116 26 60 2 246 26 10 2 39 26 2 2 60 26 2 10 3 12 3 26 6
    10 8 1 8 12 2 26 7 12 30 26 4 12 61 26 21 2 66 26 3 12 1 26 122 2 20 15 12 2 20 15 12 2 87 26 9
    2 25 15 135 2 26 9 26 5 26 9 7 5 1 2 18 5 26 9 26 5 1 9 1 2 2 9 2 2 1 9 2 2 2 9 2 2 4 9 1 2 8 9
    4 5 1 2 1 5 1 2 7 5 1 2 11 5 26 9 26 5 2 9 1 2 4 9 2 2 8 9 1 2 7 9 1 2 26 5 2 9 1 2 4 9 1 2 5 9
    1 2 1 9 3 2 7 9 1 2 26 5 26 9 26 5 26 9 26 5 26 9 26 5 26 9 26 5 26 9 26 5 26 9 28 5 2 2 25 9 1
    25 25 5 1 25 6 5 25 9 1 25 25 5 1 25 6 5 25 9 1 25 25 5 1 25 6 5 25 9 1 25 25 5 1 25 6 5 25 9 1
    25 25 5 1 25 6 5 1 9 1 5 2 2 50 13 512 26 55 12 4 26 50 12 8 26 1 12 14 26 1 12 2 26 5 21 15 2 5
    12 1 2 15 12 1104 2 10 5 1 7 20 5 6 2 6 5 213 2 7 12 1 2 17 12 2 2 7 12 1 2 2 12 1 2 5 12 5 2 62
    6 33 2 1 12 112 2 45 7 3 2 7 12 7 6 2 2 10 13 4 2 1 7 1 26 320 2 30 7 1 12 17 2 44 7 4 12 10 13
    5 2 1 23 464 2 27 7 1 6 4 12 10 13 214 2 30 7 2 12 1 7 10 13 4 2 1 21 480 2 7 7 1 2 4 7 1 2 2 7
    1 2 15 7 1 2 197 7 2 2 9 15 7 12 41 2 34 9 34 5 7 12 1 6 4 2 10 13 4 2 2 21 785 2 59 15 1 26 3
    15 1 23 4 15 76 2 45 15 1 26 15 15 194 2 4 7 1 2 27 7 1 2 2 7 1 2 1 7 2 2 1 7 1 2 10 7 1 2 4 7 1
    2 1 7 1 2 1 7 6 2 1 7 4 2 1 7 1 2 1 7 1 2 1 7 1 2 3 7 1 2 2 7 1 2 1 7 2 2 1 7 1 2 1 7 1 2 1 7 1
    2 1 7 1 2 1 7 1 2 2 7 1 2 1 7 2 2 4 7 1 2 7 7 1 2 4 7 1 2 4 7 1 2 1 7 1 2 10 7 1 2 17 7 5 2 3 7
    1 2 5 7 1 2 17 7 52 2 2 25 270 2 44 26 4 2 100 26 12 2 15 26 2 2 15 26 1 2 15 26 1 2 37 26 10 2
    13 15 161 26 56 2 29 26 13 2 44 26 4 2 9 26 7 2 2 26 14 2 6 26 154 2 251 26 5 24 728 26 4 2 17
    26 3 2 13 26 3 2 119 26 4 2 95 26 6 2 12 26 4 2 1 26 15 2 12 26 4 2 56 26 8 2 10 26 6 2 40 26 8
    2 30 26 2 2 12 26 4 2 2 26 62 2 340 26 12 2 14 26 2 2 13 26 3 2 10 26 5 2 56 26 7 2 15 26 2 2 11
    26 6 2 9 26 7 2 147 26 1 2 92 26 10 13 1030 2 42720 7 32 2 4154 7 6 2 222 7 2 2 5762 7 14 2 7473
    7 15 2 622 7 2466 2 542 7 1506 2 4939 7 5 2 4192 7 711761 2 1 1 30 2 96 1 128 2 240 12 65040 2
    65534 3 2 2 65534 3 2 2"

/-- Names of the categories and of the groups of categories, each with the
numbers it stands for. -/
def categoryNames : List (List String × List Nat) :=
  [(["c", "other"], [0, 1, 2, 3, 4]),
   (["cc", "control", "cntrl"], [0]),
   (["cf", "format"], [1]),
   (["cn", "unassigned"], [2]),
   (["co", "privateuse"], [3]),
   (["l", "letter"], [5, 6, 7, 8, 9]),
   (["lc", "casedletter"], [5, 8, 9]),
   (["ll", "lowercaseletter"], [5]),
   (["lm", "modifierletter"], [6]),
   (["lo", "otherletter"], [7]),
   (["lt", "titlecaseletter"], [8]),
   (["lu", "uppercaseletter"], [9]),
   (["m", "mark", "combiningmark"], [10, 11, 12]),
   (["mc", "spacingmark"], [10]),
   (["me", "enclosingmark"], [11]),
   (["mn", "nonspacingmark"], [12]),
   (["n", "number"], [13, 14, 15]),
   (["nd", "decimalnumber", "digit"], [13]),
   (["nl", "letternumber"], [14]),
   (["no", "othernumber"], [15]),
   (["p", "punctuation", "punct"], [16, 17, 18, 19, 20, 21, 22]),
   (["pc", "connectorpunctuation"], [16]),
   (["pd", "dashpunctuation"], [17]),
   (["pe", "closepunctuation"], [18]),
   (["pf", "finalpunctuation"], [19]),
   (["pi", "initialpunctuation"], [20]),
   (["po", "otherpunctuation"], [21]),
   (["ps", "openpunctuation"], [22]),
   (["s", "symbol"], [23, 24, 25, 26]),
   (["sc", "currencysymbol"], [23]),
   (["sk", "modifiersymbol"], [24]),
   (["sm", "mathsymbol"], [25]),
   (["so", "othersymbol"], [26]),
   (["z", "separator"], [27, 28, 29]),
   (["zl", "lineseparator"], [27]),
   (["zp", "paragraphseparator"], [28]),
   (["zs", "spaceseparator"], [29])]

end GridFilter.Unicode
