/-
Classes of the code points for cutting a text into characters as a reader sees
them, into words and into sentences.

Each of the three tables is a partition. A class's number is its position in the
list of names, counted from 1; code points of number 0 have no class.
-/
import GridFilter.Unicode.PackedTable

set_option autoImplicit false

namespace GridFilter.Unicode

/-! ## Characters -/

/-- Names of the classes for characters, written as they are compared. -/
def graphemeBreakNames : List (List String) :=
  [["cn", "control"], ["cr"], ["ex", "extend"], ["l"], ["lf"], ["lv"], ["lvt"], ["pp", "prepend"],
   ["ri", "regionalindicator"], ["sm", "spacingmark"], ["t"], ["v"], ["zwj"]]

/-- The class for characters of every code point. -/
def graphemeBreaks : Partition := Partition.ofPacked
    "10 1 1 5 2 1 1 2 18 1 95 0 33 1 13 0 1 1 594 0 112 3 275 0 7 3 263 0 45 3 1 0 1 3 1 0 2 3 1 0 2
    3 1 0 1 3 56 0 6 8 10 0 11 3 1 0 1 1 46 0 21 3 16 0 1 3 101 0 7 3 1 8 1 0 6 3 2 0 2 3 1 0 4 3 33
    0 1 8 1 0 1 3 30 0 27 3 91 0 11 3 58 0 9 3 9 0 1 3 24 0 4 3 1 0 9 3 1 0 3 3 1 0 5 3 43 0 3 3 52
    0 2 8 5 0 9 3 42 0 24 3 1 8 32 3 1 10 54 0 1 3 1 10 1 3 1 0 3 10 8 3 4 10 1 3 2 10 1 0 7 3 10 0
    2 3 29 0 1 3 2 10 56 0 1 3 1 0 1 3 2 10 4 3 2 0 2 10 2 0 2 10 1 3 9 0 1 3 10 0 2 3 26 0 1 3 2 0
    2 3 1 10 56 0 1 3 1 0 3 10 2 3 4 0 2 3 2 0 3 3 3 0 1 3 30 0 2 3 3 0 1 3 11 0 2 3 1 10 56 0 1 3 1
    0 3 10 5 3 1 0 2 3 1 10 1 0 2 10 1 3 20 0 2 3 22 0 6 3 1 0 1 3 2 10 56 0 1 3 1 0 2 3 1 10 4 3 2
    0 2 10 2 0 2 10 1 3 7 0 3 3 10 0 2 3 30 0 1 3 59 0 1 3 1 10 1 3 2 10 3 0 3 10 1 0 3 10 1 3 9 0 1
    3 40 0 1 3 3 10 1 3 55 0 1 3 1 0 3 3 4 10 1 0 3 3 1 0 4 3 7 0 2 3 11 0 2 3 29 0 1 3 2 10 56 0 1
    3 1 0 1 10 2 3 1 10 1 3 2 10 1 0 3 3 1 0 4 3 7 0 2 3 11 0 2 3 15 0 1 10 12 0 2 3 2 10 55 0 2 3 1
    0 1 3 2 10 4 3 1 0 3 10 1 0 3 10 1 3 1 8 8 0 1 3 10 0 2 3 29 0 1 3 2 10 70 0 1 3 4 0 1 3 2 10 3
    3 1 0 1 3 1 0 7 10 1 3 18 0 2 10 61 0 1 3 1 0 1 10 7 3 12 0 8 3 98 0 1 3 1 0 1 10 9 3 11 0 7 3
    73 0 2 3 27 0 1 3 1 0 1 3 1 0 1 3 4 0 2 10 49 0 14 3 1 10 5 3 1 0 2 3 5 0 11 3 1 0 36 3 9 0 1 3
    102 0 4 3 1 10 6 3 1 0 2 3 2 10 2 3 23 0 2 10 2 3 4 0 3 3 16 0 4 3 13 0 1 3 1 0 1 10 2 3 6 0 1 3
    15 0 1 3 98 0 96 4 72 12 88 11 349 0 3 3 946 0 4 3 28 0 3 3 29 0 2 3 30 0 2 3 64 0 2 3 1 10 7 3
    8 10 1 3 2 10 11 3 9 0 1 3 45 0 3 3 1 1 1 3 117 0 2 3 34 0 1 3 118 0 3 3 4 10 2 3 3 10 4 0 2 10
    1 3 6 10 3 3 219 0 2 3 2 10 1 3 57 0 1 10 1 3 1 10 7 3 1 0 1 3 1 0 1 3 2 0 8 3 6 10 10 3 2 0 1 3
    48 0 31 3 49 0 4 3 1 10 47 0 10 3 4 10 3 3 38 0 9 3 12 0 2 3 1 10 30 0 1 10 4 3 2 10 6 3 56 0 1
    3 1 10 2 3 3 10 1 3 1 10 5 3 48 0 8 10 8 3 2 10 2 3 152 0 3 3 1 0 13 3 1 10 7 3 4 0 1 3 6 0 1 3
    2 0 1 10 2 3 198 0 64 3 523 0 1 1 1 3 1 13 2 1 24 0 7 1 49 0 16 1 96 0 33 3 3070 0 3 3 141 0 1 3
    96 0 32 3 554 0 6 3 105 0 2 3 30164 0 4 3 1 0 10 3 32 0 2 3 80 0 2 3 272 0 1 3 3 0 1 3 4 0 1 3
    23 0 2 10 2 3 1 10 4 0 1 3 83 0 2 10 50 0 16 10 2 3 26 0 18 3 13 0 1 3 38 0 8 3 25 0 11 3 1 10 1
    3 12 0 29 4 3 0 3 3 1 10 47 0 1 3 2 10 4 3 2 10 2 3 2 10 1 3 36 0 1 3 67 0 6 3 2 10 2 3 2 10 2 3
    12 0 1 3 8 0 1 3 1 10 46 0 1 3 51 0 1 3 1 0 3 3 2 0 2 3 5 0 2 3 1 0 1 3 41 0 1 10 2 3 2 10 5 0 1
    10 1 3 236 0 2 10 1 3 2 10 1 3 2 10 1 0 1 10 1 3 18 0 1 6 27 7 1 6 27 7 1 6 27 7 1 6 27 7 1 6 27
    7 1 6 27 7 1 6 27 7 1 6 27 7 1 6 27 7 1 6 27 7 1 6 27 7 1 6 27 7 1 6 27 7 1 6 27 7 1 6 27 7 1 6
    27 7 1 6 27 7 1 6 27 7 1 6 27 7 1 6 27 7 1 6 27 7 1 6 27 7 1 6 27 7 1 6 27 7 1 6 27 7 1 6 27 7 1
    6 27 7 1 6 27 7 1 6 27 7 1 6 27 7 1 6 27 7 1 6 27 7 1 6 27 7 1 6 27 7 1 6 27 7 1 6 27 7 1 6 27 7
    1 6 27 7 1 6 27 7 1 6 27 7 1 6 27 7 1 6 27 7 1 6 27 7 1 6 27 7 1 6 27 7 1 6 27 7 1 6 27 7 1 6 27
    7 1 6 27 7 1 6 27 7 1 6 27 7 1 6 27 7 1 6 27 7 1 6 27 7 1 6 27 7 1 6 27 7 1 6 27 7 1 6 27 7 1 6
    27 7 1 6 27 7 1 6 27 7 1 6 27 7 1 6 27 7 1 6 27 7 1 6 27 7 1 6 27 7 1 6 27 7 1 6 27 7 1 6 27 7 1
    6 27 7 1 6 27 7 1 6 27 7 1 6 27 7 1 6 27 7 1 6 27 7 1 6 27 7 1 6 27 7 1 6 27 7 1 6 27 7 1 6 27 7
    1 6 27 7 1 6 27 7 1 6 27 7 1 6 27 7 1 6 27 7 1 6 27 7 1 6 27 7 1 6 27 7 1 6 27 7 1 6 27 7 1 6 27
    7 1 6 27 7 1 6 27 7 1 6 27 7 1 6 27 7 1 6 27 7 1 6 27 7 1 6 27 7 1 6 27 7 1 6 27 7 1 6 27 7 1 6
    27 7 1 6 27 7 1 6 27 7 1 6 27 7 1 6 27 7 1 6 27 7 1 6 27 7 1 6 27 7 1 6 27 7 1 6 27 7 1 6 27 7 1
    6 27 7 1 6 27 7 1 6 27 7 1 6 27 7 1 6 27 7 1 6 27 7 1 6 27 7 1 6 27 7 1 6 27 7 1 6 27 7 1 6 27 7
    1 6 27 7 1 6 27 7 1 6 27 7 1 6 27 7 1 6 27 7 1 6 27 7 1 6 27 7 1 6 27 7 1 6 27 7 1 6 27 7 1 6 27
    7 1 6 27 7 1 6 27 7 1 6 27 7 1 6 27 7 1 6 27 7 1 6 27 7 1 6 27 7 1 6 27 7 1 6 27 7 1 6 27 7 1 6
    27 7 1 6 27 7 1 6 27 7 1 6 27 7 1 6 27 7 1 6 27 7 1 6 27 7 1 6 27 7 1 6 27 7 1 6 27 7 1 6 27 7 1
    6 27 7 1 6 27 7 1 6 27 7 1 6 27 7 1 6 27 7 1 6 27 7 1 6 27 7 1 6 27 7 1 6 27 7 1 6 27 7 1 6 27 7
    1 6 27 7 1 6 27 7 1 6 27 7 1 6 27 7 1 6 27 7 1 6 27 7 1 6 27 7 1 6 27 7 1 6 27 7 1 6 27 7 1 6 27
    7 1 6 27 7 1 6 27 7 1 6 27 7 1 6 27 7 1 6 27 7 1 6 27 7 1 6 27 7 1 6 27 7 1 6 27 7 1 6 27 7 1 6
    27 7 1 6 27 7 1 6 27 7 1 6 27 7 1 6 27 7 1 6 27 7 1 6 27 7 1 6 27 7 1 6 27 7 1 6 27 7 1 6 27 7 1
    6 27 7 1 6 27 7 1 6 27 7 1 6 27 7 1 6 27 7 1 6 27 7 1 6 27 7 1 6 27 7 1 6 27 7 1 6 27 7 1 6 27 7
    1 6 27 7 1 6 27 7 1 6 27 7 1 6 27 7 1 6 27 7 1 6 27 7 1 6 27 7 1 6 27 7 1 6 27 7 1 6 27 7 1 6 27
    7 1 6 27 7 1 6 27 7 1 6 27 7 1 6 27 7 1 6 27 7 1 6 27 7 1 6 27 7 1 6 27 7 1 6 27 7 1 6 27 7 1 6
    27 7 1 6 27 7 1 6 27 7 1 6 27 7 1 6 27 7 1 6 27 7 1 6 27 7 1 6 27 7 1 6 27 7 1 6 27 7 1 6 27 7 1
    6 27 7 1 6 27 7 1 6 27 7 1 6 27 7 1 6 27 7 1 6 27 7 1 6 27 7 1 6 27 7 1 6 27 7 1 6 27 7 1 6 27 7
    1 6 27 7 1 6 27 7 1 6 27 7 1 6 27 7 1 6 27 7 1 6 27 7 1 6 27 7 1 6 27 7 1 6 27 7 1 6 27 7 1 6 27
    7 1 6 27 7 1 6 27 7 1 6 27 7 1 6 27 7 1 6 27 7 1 6 27 7 1 6 27 7 1 6 27 7 1 6 27 7 1 6 27 7 1 6
    27 7 1 6 27 7 1 6 27 7 1 6 27 7 1 6 27 7 1 6 27 7 1 6 27 7 1 6 27 7 1 6 27 7 1 6 27 7 1 6 27 7 1
    6 27 7 1 6 27 7 1 6 27 7 1 6 27 7 1 6 27 7 1 6 27 7 1 6 27 7 1 6 27 7 1 6 27 7 1 6 27 7 1 6 27 7
    1 6 27 7 1 6 27 7 1 6 27 7 1 6 27 7 1 6 27 7 1 6 27 7 1 6 27 7 1 6 27 7 1 6 27 7 1 6 27 7 1 6 27
    7 1 6 27 7 1 6 27 7 1 6 27 7 1 6 27 7 1 6 27 7 1 6 27 7 1 6 27 7 1 6 27 7 1 6 27 7 1 6 27 7 1 6
    27 7 1 6 27 7 1 6 27 7 1 6 27 7 1 6 27 7 1 6 27 7 1 6 27 7 1 6 27 7 1 6 27 7 1 6 27 7 1 6 27 7 1
    6 27 7 1 6 27 7 1 6 27 7 1 6 27 7 1 6 27 7 1 6 27 7 1 6 27 7 1 6 27 7 1 6 27 7 1 6 27 7 1 6 27 7
    1 6 27 7 1 6 27 7 1 6 27 7 1 6 27 7 1 6 27 7 1 6 27 7 1 6 27 7 1 6 27 7 1 6 27 7 1 6 27 7 1 6 27
    7 1 6 27 7 1 6 27 7 1 6 27 7 1 6 27 7 1 6 27 7 1 6 27 7 1 6 27 7 1 6 27 7 1 6 27 7 1 6 27 7 1 6
    27 7 1 6 27 7 1 6 27 7 1 6 27 7 1 6 27 7 1 6 27 7 1 6 27 7 1 6 27 7 1 6 27 7 1 6 27 7 1 6 27 7 1
    6 27 7 1 6 27 7 1 6 27 7 1 6 27 7 1 6 27 7 1 6 27 7 1 6 27 7 1 6 27 7 1 6 27 7 1 6 27 7 1 6 27 7
    1 6 27 7 1 6 27 7 1 6 27 7 1 6 27 7 1 6 27 7 1 6 27 7 1 6 27 7 1 6 27 7 1 6 27 7 1 6 27 7 1 6 27
    7 1 6 27 7 1 6 27 7 1 6 27 7 1 6 27 7 1 6 27 7 1 6 27 7 1 6 27 7 12 0 23 12 4 0 49 11 8994 0 1 3
    737 0 16 3 16 0 16 3 207 0 1 1 158 0 2 3 80 0 12 1 513 0 1 3 226 0 1 3 149 0 5 3 1670 0 3 3 1 0
    2 3 5 0 4 3 40 0 3 3 4 0 1 3 165 0 2 3 573 0 4 3 65 0 5 3 317 0 2 3 79 0 4 3 70 0 11 3 49 0 4 3
    122 0 1 10 1 3 1 10 53 0 15 3 41 0 1 3 2 0 2 3 10 0 3 3 1 10 45 0 3 10 4 3 2 10 2 3 2 0 1 8 4 0
    1 3 10 0 1 8 50 0 3 3 36 0 5 3 1 10 8 3 16 0 2 10 44 0 1 3 12 0 2 3 1 10 48 0 3 10 9 3 1 10 1 3
    1 0 2 8 5 0 4 3 1 0 1 10 1 3 92 0 3 10 3 3 2 10 4 3 6 0 1 3 2 0 1 3 157 0 1 3 3 10 8 3 21 0 2 3
    2 10 55 0 2 3 1 0 1 3 1 10 1 3 4 10 2 0 2 10 2 0 2 10 1 3 9 0 1 3 10 0 2 10 2 0 7 3 3 0 5 3 67 0
    1 3 2 10 6 3 1 0 1 3 2 0 1 3 1 0 3 3 1 10 1 0 2 10 3 3 1 8 1 3 14 0 2 3 82 0 3 10 8 3 2 10 3 3 1
    10 1 3 23 0 1 3 81 0 1 3 2 10 6 3 1 10 1 3 2 10 1 3 1 10 2 3 1 10 2 3 235 0 1 3 2 10 4 3 2 0 4
    10 2 3 1 10 2 3 27 0 2 3 82 0 3 10 8 3 2 10 1 3 1 10 2 3 106 0 1 3 1 10 1 3 2 10 8 3 101 0 1 3 1
    10 1 3 2 0 4 3 1 10 5 3 256 0 3 10 9 3 1 10 2 3 245 0 1 3 5 10 1 0 2 10 2 0 4 3 1 8 1 10 1 8 1
    10 1 3 141 0 3 10 4 3 2 0 2 3 4 10 1 3 3 0 1 10 28 0 10 3 40 0 6 3 1 10 1 8 4 3 8 0 1 3 9 0 6 3
    2 10 3 3 40 0 6 8 13 3 1 10 2 3 405 0 1 10 7 3 1 0 6 3 1 10 1 3 82 0 22 3 1 0 1 10 7 3 1 10 2 3
    1 10 2 3 122 0 6 3 3 0 1 3 1 0 2 3 1 0 7 3 1 8 1 3 66 0 5 10 1 0 2 3 1 0 2 10 1 3 1 10 1 3 347 0
    2 3 2 10 9 0 2 3 1 8 1 10 48 0 2 10 5 3 3 0 2 10 3 3 23 0 1 3 5333 0 16 1 1 3 6 0 15 3 11464 0
    12 3 3 10 3 3 2496 0 5 3 59 0 7 3 556 0 1 12 3 0 4 12 484 0 1 3 1 0 55 10 7 0 4 3 81 0 1 3 11 0
    2 3 19627 0 2 3 1 0 4 1 4700 0 46 3 2 0 23 3 542 0 5 3 3 0 6 3 8 1 8 3 2 0 7 3 30 0 4 3 148 0 3
    3 1979 0 55 3 4 0 50 3 8 0 1 3 14 0 1 3 22 0 5 3 1 0 15 3 1360 0 7 3 1 0 17 3 2 0 7 3 1 0 2 3 1
    0 5 3 100 0 1 3 160 0 7 3 375 0 1 3 61 0 4 3 508 0 4 3 254 0 2 3 736 0 7 3 109 0 7 3 2203 0 26 9
    507 0 5 3 789504 0 32 1 96 3 128 1 240 3 3600 1 192512 0"

/-! ## Words -/

/-- Names of the classes for words. -/
def wordBreakNames : List (List String) :=
  [["cr"], ["dq", "doublequote"], ["ex", "extendnumlet"], ["extend"], ["fo", "format"],
   ["hl", "hebrewletter"], ["ka", "katakana"], ["le", "aletter"], ["lf"], ["mb", "midnumlet"],
   ["ml", "midletter"], ["mn", "midnum"], ["nl", "newline"], ["nu", "numeric"],
   ["ri", "regionalindicator"], ["sq", "singlequote"], ["wsegspace"], ["zwj"]]

/-- The class for words of every code point. -/
def wordBreaks : Partition := Partition.ofPacked
    "10 0 1 9 2 13 1 1 18 0 1 17 1 0 1 2 4 0 1 16 4 0 1 12 1 0 1 10 1 0 10 14 1 11 1 12 5 0 26 8 4 0
    1 3 1 0 26 8 10 0 1 13 36 0 1 8 2 0 1 5 7 0 1 8 1 0 1 11 2 0 1 8 5 0 23 8 1 0 31 8 1 0 480 8 6 0
    34 8 112 4 5 8 1 0 2 8 2 0 4 8 1 12 1 8 6 0 1 8 1 11 3 8 1 0 1 8 1 0 20 8 1 0 83 8 1 0 139 8 1 0
    7 4 166 8 1 0 38 8 2 0 4 8 1 0 1 8 1 11 41 8 1 12 1 8 6 0 45 4 1 0 1 4 1 0 2 4 1 0 2 4 1 0 1 4 8
    0 27 6 4 0 4 6 1 8 1 11 11 0 6 14 6 0 2 12 2 0 11 4 1 0 1 5 3 0 43 8 21 4 10 14 1 0 1 14 1 12 1
    0 2 8 1 4 99 8 1 0 1 8 7 4 1 14 1 0 6 4 2 8 2 4 1 0 4 4 2 8 10 14 3 8 2 0 1 8 15 0 2 8 1 4 30 8
    27 4 2 0 89 8 11 4 1 8 14 0 10 14 33 8 9 4 2 8 2 0 1 12 1 0 1 8 2 0 1 4 2 0 22 8 4 4 1 8 9 4 1 8
    3 4 1 8 5 4 18 0 25 8 3 4 4 0 11 8 5 0 24 8 1 0 6 8 1 0 2 14 5 0 9 4 42 8 24 4 1 14 33 4 54 8 3
    4 1 8 18 4 1 8 7 4 10 8 2 4 2 0 10 14 1 0 16 8 3 4 1 0 8 8 2 0 2 8 2 0 22 8 1 0 7 8 1 0 1 8 3 0
    4 8 2 0 1 4 1 8 7 4 2 0 2 4 2 0 3 4 1 8 8 0 1 4 4 0 2 8 1 0 3 8 2 4 2 0 10 14 2 8 10 0 1 8 1 0 1
    4 2 0 3 4 1 0 6 8 4 0 2 8 2 0 22 8 1 0 7 8 1 0 2 8 1 0 2 8 1 0 2 8 2 0 1 4 1 0 5 4 4 0 2 4 2 0 3
    4 3 0 1 4 7 0 4 8 1 0 1 8 7 0 10 14 2 4 3 8 1 4 11 0 3 4 1 0 9 8 1 0 3 8 1 0 22 8 1 0 7 8 1 0 2
    8 1 0 5 8 2 0 1 4 1 8 8 4 1 0 3 4 1 0 3 4 2 0 1 8 15 0 2 8 2 4 2 0 10 14 9 0 1 8 6 4 1 0 3 4 1 0
    8 8 2 0 2 8 2 0 22 8 1 0 7 8 1 0 2 8 1 0 5 8 2 0 1 4 1 8 7 4 2 0 2 4 2 0 3 4 7 0 3 4 4 0 2 8 1 0
    3 8 2 4 2 0 10 14 1 0 1 8 16 0 1 4 1 8 1 0 6 8 3 0 3 8 1 0 4 8 3 0 2 8 1 0 1 8 1 0 2 8 3 0 2 8 3
    0 3 8 3 0 12 8 4 0 5 4 3 0 3 4 1 0 4 4 2 0 1 8 6 0 1 4 14 0 10 14 16 0 5 4 8 8 1 0 3 8 1 0 23 8
    1 0 16 8 2 0 1 4 1 8 7 4 1 0 3 4 1 0 4 4 7 0 2 4 1 0 3 8 2 0 1 8 2 0 2 8 2 4 2 0 10 14 16 0 1 8
    3 4 1 0 8 8 1 0 3 8 1 0 23 8 1 0 10 8 1 0 5 8 2 0 1 4 1 8 7 4 1 0 3 4 1 0 4 4 7 0 2 4 6 0 2 8 1
    0 2 8 2 4 2 0 10 14 1 0 2 8 1 4 12 0 4 4 9 8 1 0 3 8 1 0 41 8 2 4 1 8 7 4 1 0 3 4 1 0 4 4 1 8 5
    0 3 8 1 4 7 0 3 8 2 4 2 0 10 14 10 0 6 8 1 0 3 4 1 0 18 8 3 0 24 8 1 0 9 8 1 0 1 8 2 0 7 8 3 0 1
    4 4 0 6 4 1 0 1 4 1 0 8 4 6 0 10 14 2 0 2 4 61 0 1 4 2 0 7 4 12 0 8 4 1 0 10 14 87 0 1 4 2 0 9 4
    11 0 7 4 1 0 10 14 38 0 1 8 23 0 2 4 6 0 10 14 11 0 1 4 1 0 1 4 1 0 1 4 4 0 2 4 8 8 1 0 36 8 4 0
    20 4 1 0 2 4 5 8 11 4 1 0 36 4 9 0 1 4 100 0 20 4 1 0 10 14 12 0 4 4 4 0 3 4 1 0 3 4 2 0 7 4 3 0
    4 4 13 0 12 4 1 0 1 4 10 14 4 4 2 0 38 8 1 0 1 8 5 0 1 8 2 0 43 8 1 0 333 8 1 0 4 8 2 0 7 8 1 0
    1 8 1 0 4 8 2 0 41 8 1 0 4 8 2 0 33 8 1 0 4 8 2 0 7 8 1 0 1 8 1 0 4 8 2 0 15 8 1 0 57 8 1 0 4 8
    2 0 67 8 2 0 3 4 32 0 16 8 16 0 86 8 2 0 6 8 3 0 620 8 2 0 17 8 1 17 26 8 5 0 75 8 3 0 11 8 7 0
    18 8 4 4 9 0 19 8 3 4 11 0 18 8 2 4 12 0 13 8 1 0 3 8 1 0 2 4 64 0 32 4 9 0 1 4 2 0 10 14 33 0 3
    4 1 5 1 4 10 14 6 0 89 8 7 0 5 8 2 4 34 8 1 4 1 8 5 0 70 8 10 0 31 8 1 0 12 4 4 0 12 4 10 0 10
    14 128 0 11 14 37 0 23 8 5 4 57 0 10 4 1 0 29 4 2 0 1 4 10 14 6 0 10 14 22 0 31 4 49 0 5 4 47 8
    17 4 8 8 3 0 10 14 17 0 9 4 12 0 3 4 30 8 13 4 2 8 10 14 44 8 14 4 12 0 36 8 20 4 8 0 10 14 3 0
    3 8 10 14 36 8 2 0 11 8 5 0 43 8 2 0 3 8 16 0 3 4 1 0 21 4 4 8 1 4 6 8 1 4 2 8 3 4 1 8 5 0 192 8
    64 4 278 8 2 0 6 8 2 0 38 8 2 0 6 8 2 0 8 8 1 0 1 8 1 0 1 8 1 0 1 8 1 0 31 8 2 0 53 8 1 0 7 8 1
    0 1 8 3 0 3 8 1 0 7 8 3 0 4 8 2 0 6 8 4 0 13 8 5 0 3 8 1 0 7 8 3 0 7 17 1 0 3 17 1 0 1 4 1 18 2
    5 8 0 2 10 10 0 1 10 2 0 1 11 2 13 5 5 1 3 15 0 2 3 3 0 1 12 15 0 1 3 10 0 1 17 5 5 1 0 10 5 1 0
    1 8 13 0 1 8 16 0 13 8 51 0 33 4 17 0 1 8 4 0 1 8 2 0 10 8 1 0 1 8 3 0 5 8 6 0 1 8 1 0 1 8 1 0 1
    8 1 0 4 8 1 0 11 8 2 0 4 8 5 0 5 8 4 0 1 8 17 0 41 8 813 0 52 8 1814 0 229 8 6 0 4 8 3 4 2 8 12
    0 38 8 1 0 1 8 5 0 1 8 2 0 56 8 7 0 1 8 15 0 1 4 23 8 9 0 7 8 1 0 7 8 1 0 7 8 1 0 7 8 1 0 7 8 1
    0 7 8 1 0 7 8 1 0 7 8 1 0 32 4 47 0 1 8 464 0 1 17 4 0 1 8 36 0 6 4 1 0 5 7 5 0 2 8 92 0 2 4 2 7
    3 0 91 7 1 0 4 7 5 0 43 8 1 0 94 8 17 0 32 8 48 0 16 7 208 0 47 7 1 0 88 7 27816 0 1165 8 67 0
    46 8 2 0 269 8 3 0 16 8 10 14 2 8 20 0 47 8 4 4 1 0 10 4 1 0 31 8 2 4 80 8 2 4 22 0 198 8 2 0 2
    8 1 0 1 8 1 0 8 8 21 0 16 8 1 4 3 8 1 4 4 8 1 4 23 8 5 4 4 0 1 4 19 0 52 8 12 0 2 4 50 8 18 4 10
    0 10 14 6 0 18 4 6 8 3 0 1 8 1 0 2 8 1 4 10 14 28 8 8 4 2 0 23 8 13 4 12 0 29 8 3 0 4 4 47 8 14
    4 14 0 1 8 10 14 11 0 1 4 10 0 10 14 6 0 41 8 14 4 9 0 3 8 1 4 8 8 2 4 2 0 10 14 33 0 3 4 50 0 1
    4 1 0 3 4 2 0 2 4 5 0 2 4 1 0 1 4 30 0 11 8 5 4 2 0 3 8 2 4 10 0 6 8 2 0 6 8 2 0 6 8 9 0 7 8 1 0
    7 8 1 0 58 8 6 0 115 8 8 4 1 0 2 4 2 0 10 14 6 0 11172 8 12 0 23 8 4 0 49 8 8964 0 7 8 12 0 5 8
    5 0 1 6 1 4 10 6 1 0 13 6 1 0 5 6 1 0 1 6 1 0 2 6 1 0 2 6 1 0 10 6 98 8 33 0 363 8 18 0 64 8 2 0
    54 8 40 0 12 8 4 0 16 4 1 12 2 0 1 11 1 12 11 0 16 4 3 0 2 3 24 0 3 3 1 12 1 0 1 10 1 0 1 12 1
    11 26 0 5 8 1 0 135 8 2 0 1 5 7 0 1 10 4 0 1 12 1 0 1 10 1 0 10 14 1 11 1 12 5 0 26 8 4 0 1 3 1
    0 26 8 11 0 56 7 2 4 31 8 3 0 6 8 2 0 6 8 2 0 6 8 2 0 3 8 28 0 3 5 4 0 12 8 1 0 26 8 1 0 19 8 1
    0 2 8 1 0 15 8 2 0 14 8 34 0 123 8 69 0 53 8 136 0 1 4 130 0 29 8 3 0 49 8 15 0 1 4 31 0 32 8 13
    0 30 8 5 0 38 8 5 4 5 0 30 8 2 0 36 8 4 0 8 8 1 0 5 8 42 0 158 8 2 0 10 14 6 0 36 8 4 0 36 8 4 0
    40 8 8 0 52 8 12 0 11 8 1 0 15 8 1 0 7 8 1 0 2 8 1 0 11 8 1 0 15 8 1 0 7 8 1 0 2 8 3 0 52 8 12 0
    311 8 9 0 22 8 10 0 8 8 24 0 6 8 1 0 42 8 1 0 9 8 69 0 6 8 2 0 1 8 1 0 44 8 1 0 2 8 3 0 1 8 2 0
    23 8 10 0 23 8 9 0 31 8 65 0 19 8 1 0 2 8 10 0 22 8 10 0 26 8 70 0 56 8 6 0 2 8 64 0 1 8 3 4 1 0
    2 4 5 0 4 4 4 8 1 0 3 8 1 0 29 8 2 0 3 4 4 0 1 4 32 0 29 8 3 0 29 8 35 0 8 8 1 0 28 8 2 4 25 0
    54 8 10 0 22 8 10 0 19 8 13 0 18 8 110 0 73 8 55 0 51 8 13 0 51 8 13 0 36 8 4 4 8 0 10 14 6 0 10
    14 28 8 3 0 5 4 1 0 23 8 250 0 42 8 1 0 2 4 3 0 2 8 16 0 3 8 55 0 4 4 29 8 10 0 1 8 8 0 22 8 11
    4 31 0 18 8 4 4 42 0 21 8 27 0 23 8 9 0 3 4 53 8 15 4 31 0 10 14 1 4 2 8 2 4 1 8 9 0 4 4 45 8 11
    4 2 0 1 14 4 0 1 4 10 0 1 14 2 0 25 8 7 0 10 14 6 0 3 4 36 8 14 4 1 0 10 14 4 0 1 8 2 4 1 8 8 0
    35 8 1 4 2 0 1 8 9 0 3 4 48 8 14 4 4 8 4 0 4 4 1 0 2 4 10 14 1 8 1 0 1 8 35 0 18 8 1 0 25 8 12 4
    6 0 1 4 2 8 1 4 62 0 7 8 1 0 1 8 1 0 4 8 1 0 15 8 1 0 10 8 7 0 47 8 12 4 5 0 10 14 6 0 4 4 1 0 8
    8 2 0 2 8 2 0 22 8 1 0 7 8 1 0 2 8 1 0 5 8 1 0 2 4 1 8 7 4 2 0 2 4 2 0 3 4 2 0 1 8 6 0 1 4 5 0 5
    8 2 4 2 0 7 4 3 0 5 4 11 0 10 8 1 0 1 8 2 0 1 8 1 0 38 8 1 0 1 8 9 4 1 0 1 4 2 0 1 4 1 0 4 4 1 0
    5 4 1 8 1 4 1 8 13 0 2 4 29 0 53 8 18 4 4 8 5 0 10 14 4 0 1 4 3 8 30 0 48 8 20 4 2 8 1 0 1 8 8 0
    10 14 166 0 47 8 7 4 2 0 9 4 23 0 4 8 2 4 34 0 48 8 17 4 3 0 1 8 11 0 10 14 38 0 43 8 13 4 1 8 7
    0 10 14 6 0 20 14 57 0 15 4 4 0 10 14 198 0 44 8 15 4 101 0 64 8 10 14 21 0 8 8 2 0 1 8 2 0 8 8
    1 0 2 8 1 0 24 8 6 4 1 0 2 4 2 0 4 4 1 8 1 4 1 8 2 4 12 0 10 14 70 0 8 8 2 0 39 8 7 4 2 0 7 4 1
    8 1 0 1 8 1 4 27 0 1 8 10 4 40 8 7 4 1 8 4 4 8 0 1 4 8 0 1 8 11 4 46 8 16 4 3 0 1 8 18 0 73 8
    199 0 33 8 15 0 10 14 6 0 9 8 1 0 37 8 8 4 1 0 8 4 1 8 15 0 10 14 24 0 30 8 2 0 22 4 1 0 14 4 73
    0 7 8 1 0 2 8 1 0 38 8 6 4 3 0 1 4 1 0 2 4 1 0 7 4 1 8 1 4 8 0 10 14 6 0 6 8 1 0 2 8 1 0 32 8 5
    4 1 0 2 4 1 0 5 4 1 8 7 0 10 14 310 0 19 8 4 4 9 0 2 4 1 8 1 4 13 8 1 0 34 8 7 4 3 0 5 4 13 0 10
    14 1 4 85 0 1 8 79 0 922 8 102 0 111 8 17 0 196 8 2636 0 97 8 15 0 1072 8 16 5 1 4 6 8 15 4 10 0
    3995 8 5 0 583 8 6841 0 30 8 18 4 10 14 1734 0 569 8 7 0 31 8 1 0 10 14 6 0 79 8 1 0 10 14 6 0
    30 8 2 0 5 4 11 0 48 8 7 4 9 0 4 8 12 0 10 14 9 0 21 8 5 0 19 8 432 0 45 8 3 0 10 14 198 0 64 8
    128 0 75 8 4 0 1 4 1 8 55 4 7 0 4 4 13 8 64 0 2 8 1 0 1 8 1 4 11 0 2 4 16382 0 4 7 1 0 7 7 1 0 2
    7 1 0 1 7 287 0 3 7 50 0 1 7 14 0 4 7 2712 0 107 8 5 0 13 8 3 0 9 8 7 0 10 8 3 0 2 4 1 0 4 5
    4172 0 10 14 518 0 46 4 2 0 23 4 542 0 5 4 3 0 6 4 8 5 8 4 2 0 7 4 30 0 4 4 148 0 3 4 443 0 85 8
    1 0 71 8 1 0 2 8 2 0 1 8 2 0 2 8 2 0 4 8 1 0 12 8 1 0 1 8 1 0 7 8 1 0 65 8 1 0 4 8 2 0 8 8 1 0 7
    8 1 0 28 8 1 0 4 8 1 0 5 8 1 0 1 8 3 0 7 8 1 0 340 8 2 0 25 8 1 0 25 8 1 0 31 8 1 0 25 8 1 0 31
    8 1 0 25 8 1 0 31 8 1 0 25 8 1 0 31 8 1 0 25 8 1 0 8 8 2 0 50 14 512 0 55 4 4 0 50 4 8 0 1 4 14
    0 1 4 22 0 5 4 1 0 15 4 1104 0 31 8 6 0 6 8 213 0 7 4 1 0 17 4 2 0 7 4 1 0 2 4 1 0 5 4 5 0 62 8
    33 0 1 4 112 0 45 8 3 0 7 4 7 8 2 0 10 14 4 0 1 8 321 0 30 8 1 4 17 0 44 8 4 4 10 14 470 0 28 8
    4 4 10 14 214 0 30 8 2 4 1 8 10 14 485 0 7 8 1 0 4 8 1 0 2 8 1 0 15 8 1 0 197 8 11 0 7 4 41 0 68
    8 7 4 1 8 4 0 10 14 1190 0 4 8 1 0 27 8 1 0 2 8 1 0 1 8 2 0 1 8 1 0 10 8 1 0 4 8 1 0 1 8 1 0 1 8
    6 0 1 8 4 0 1 8 1 0 1 8 1 0 1 8 1 0 3 8 1 0 2 8 1 0 1 8 2 0 1 8 1 0 1 8 1 0 1 8 1 0 1 8 1 0 1 8
    1 0 2 8 1 0 1 8 2 0 4 8 1 0 7 8 1 0 4 8 1 0 4 8 1 0 1 8 1 0 10 8 1 0 17 8 5 0 3 8 1 0 5 8 1 0 17
    8 628 0 26 8 6 0 26 8 6 0 26 8 92 0 26 15 507 0 5 4 2032 0 10 14 787463 0 1 5 30 0 96 4 128 0
    240 4 196112 0"

/-! ## Sentences -/

/-- Names of the classes for sentences. -/
def sentenceBreakNames : List (List String) :=
  [["at", "aterm"], ["cl", "close"], ["cr"], ["ex", "extend"], ["fo", "format"], ["le", "oletter"],
   ["lf"], ["lo", "lower"], ["nu", "numeric"], ["sc", "scontinue"], ["se", "sep"], ["sp"],
   ["st", "sterm"], ["up", "upper"]]

/-- The class for sentences of every code point. -/
def sentenceBreaks : Partition := Partition.ofPacked
    "9 0 1 12 1 7 2 12 1 3 18 0 1 12 1 13 1 2 4 0 3 2 2 0 2 10 1 1 1 0 10 9 2 10 3 0 1 13 1 0 26 14 1
    2 1 0 1 2 3 0 26 8 1 2 1 0 1 2 7 0 1 11 26 0 1 12 9 0 1 8 1 2 1 0 1 5 7 0 1 8 4 0 1 8 1 2 4 0 23
    14 1 0 7 14 24 8 1 0 8 8 1 14 1 8 1 14 1 8 1 14 1 8 1 14 1 8 1 14 1 8 1 14 1 8 1 14 1 8 1 14 1 8
    1 14 1 8 1 14 1 8 1 14 1 8 1 14 1 8 1 14 1 8 1 14 1 8 1 14 1 8 1 14 1 8 1 14 1 8 1 14 1 8 1 14 1
    8 1 14 1 8 1 14 1 8 1 14 1 8 1 14 1 8 1 14 1 8 1 14 1 8 1 14 1 8 1 14 1 8 1 14 2 8 1 14 1 8 1 14
    1 8 1 14 1 8 1 14 1 8 1 14 1 8 1 14 1 8 1 14 1 8 1 14 2 8 1 14 1 8 1 14 1 8 1 14 1 8 1 14 1 8 1
    14 1 8 1 14 1 8 1 14 1 8 1 14 1 8 1 14 1 8 1 14 1 8 1 14 1 8 1 14 1 8 1 14 1 8 1 14 1 8 1 14 1 8
    1 14 1 8 1 14 1 8 1 14 1 8 1 14 1 8 1 14 1 8 1 14 1 8 1 14 1 8 1 14 1 8 2 14 1 8 1 14 1 8 1 14 3
    8 2 14 1 8 1 14 1 8 2 14 1 8 3 14 2 8 4 14 1 8 2 14 1 8 3 14 3 8 2 14 1 8 2 14 1 8 1 14 1 8 1 14
    1 8 2 14 1 8 1 14 2 8 1 14 1 8 2 14 1 8 3 14 1 8 1 14 1 8 2 14 2 8 1 6 1 14 3 8 4 6 2 14 1 8 2
    14 1 8 2 14 1 8 1 14 1 8 1 14 1 8 1 14 1 8 1 14 1 8 1 14 1 8 1 14 1 8 1 14 1 8 1 14 2 8 1 14 1 8
    1 14 1 8 1 14 1 8 1 14 1 8 1 14 1 8 1 14 1 8 1 14 1 8 1 14 1 8 1 14 2 8 2 14 1 8 1 14 1 8 3 14 1
    8 1 14 1 8 1 14 1 8 1 14 1 8 1 14 1 8 1 14 1 8 1 14 1 8 1 14 1 8 1 14 1 8 1 14 1 8 1 14 1 8 1 14
    1 8 1 14 1 8 1 14 1 8 1 14 1 8 1 14 1 8 1 14 1 8 1 14 1 8 1 14 1 8 1 14 1 8 1 14 1 8 1 14 1 8 1
    14 1 8 1 14 1 8 1 14 1 8 1 14 1 8 1 14 1 8 1 14 1 8 1 14 1 8 1 14 7 8 2 14 1 8 2 14 2 8 1 14 1 8
    4 14 1 8 1 14 1 8 1 14 1 8 1 14 1 8 1 14 69 8 1 6 36 8 7 6 2 8 4 0 12 6 14 0 5 8 7 0 1 6 1 0 1 6
    17 0 112 4 1 14 1 8 1 14 1 8 1 6 1 0 1 14 1 8 2 0 4 8 1 10 1 14 6 0 1 14 1 0 3 14 1 0 1 14 1 0 2
    14 1 8 17 14 1 0 9 14 35 8 1 14 2 8 3 14 3 8 1 14 1 8 1 14 1 8 1 14 1 8 1 14 1 8 1 14 1 8 1 14 1
    8 1 14 1 8 1 14 1 8 1 14 1 8 1 14 1 8 1 14 1 8 1 14 5 8 1 14 1 8 1 0 1 14 1 8 2 14 2 8 51 14 48
    8 1 14 1 8 1 14 1 8 1 14 1 8 1 14 1 8 1 14 1 8 1 14 1 8 1 14 1 8 1 14 1 8 1 14 1 8 1 14 1 8 1 14
    1 8 1 14 1 8 1 14 1 8 1 14 1 8 1 14 1 8 1 14 1 8 1 14 1 8 1 0 7 4 1 14 1 8 1 14 1 8 1 14 1 8 1
    14 1 8 1 14 1 8 1 14 1 8 1 14 1 8 1 14 1 8 1 14 1 8 1 14 1 8 1 14 1 8 1 14 1 8 1 14 1 8 1 14 1 8
    1 14 1 8 1 14 1 8 1 14 1 8 1 14 1 8 1 14 1 8 1 14 1 8 1 14 1 8 1 14 1 8 1 14 1 8 1 14 1 8 1 14 1
    8 1 14 1 8 1 14 1 8 2 14 1 8 1 14 1 8 1 14 1 8 1 14 1 8 1 14 1 8 1 14 1 8 1 14 2 8 1 14 1 8 1 14
    1 8 1 14 1 8 1 14 1 8 1 14 1 8 1 14 1 8 1 14 1 8 1 14 1 8 1 14 1 8 1 14 1 8 1 14 1 8 1 14 1 8 1
    14 1 8 1 14 1 8 1 14 1 8 1 14 1 8 1 14 1 8 1 14 1 8 1 14 1 8 1 14 1 8 1 14 1 8 1 14 1 8 1 14 1 8
    1 14 1 8 1 14 1 8 1 14 1 8 1 14 1 8 1 14 1 8 1 14 1 8 1 14 1 8 1 14 1 8 1 14 1 8 1 14 1 8 1 14 1
    8 1 14 1 8 1 14 1 8 1 14 1 8 1 14 1 8 1 14 1 8 1 14 1 8 1 14 1 8 1 14 1 8 1 14 1 8 1 14 1 8 1 14
    1 8 1 14 1 8 1 14 1 8 1 14 1 8 1 0 38 14 2 0 1 6 3 0 1 10 2 0 41 8 1 13 7 0 45 4 1 0 1 4 1 0 2 4
    1 0 2 4 1 0 1 4 8 0 27 6 4 0 5 6 12 0 6 9 6 0 2 10 2 0 11 4 1 0 1 5 3 13 43 6 21 4 10 9 1 0 2 9
    1 0 2 6 1 4 99 6 1 13 1 6 7 4 1 9 1 0 6 4 2 6 2 4 1 0 4 4 2 6 10 9 3 6 2 0 1 6 3 13 12 0 1 5 1 6
    1 4 30 6 27 4 2 0 89 6 11 4 1 6 14 0 10 9 33 6 9 4 2 6 2 0 1 10 1 13 1 6 2 0 1 4 2 0 22 6 4 4 1
    6 9 4 1 6 3 4 1 6 5 4 9 0 1 13 1 0 1 13 3 0 2 13 1 0 25 6 3 4 4 0 11 6 5 0 24 6 1 0 6 6 1 0 2 9
    5 0 9 4 42 6 24 4 1 9 33 4 54 6 3 4 1 6 18 4 1 6 7 4 10 6 2 4 2 13 10 9 1 0 16 6 3 4 1 0 8 6 2 0
    2 6 2 0 22 6 1 0 7 6 1 0 1 6 3 0 4 6 2 0 1 4 1 6 7 4 2 0 2 4 2 0 3 4 1 6 8 0 1 4 4 0 2 6 1 0 3 6
    2 4 2 0 10 9 2 6 10 0 1 6 1 0 1 4 2 0 3 4 1 0 6 6 4 0 2 6 2 0 22 6 1 0 7 6 1 0 2 6 1 0 2 6 1 0 2
    6 2 0 1 4 1 0 5 4 4 0 2 4 2 0 3 4 3 0 1 4 7 0 4 6 1 0 1 6 7 0 10 9 2 4 3 6 1 4 11 0 3 4 1 0 9 6
    1 0 3 6 1 0 22 6 1 0 7 6 1 0 2 6 1 0 5 6 2 0 1 4 1 6 8 4 1 0 3 4 1 0 3 4 2 0 1 6 15 0 2 6 2 4 2
    0 10 9 9 0 1 6 6 4 1 0 3 4 1 0 8 6 2 0 2 6 2 0 22 6 1 0 7 6 1 0 2 6 1 0 5 6 2 0 1 4 1 6 7 4 2 0
    2 4 2 0 3 4 7 0 3 4 4 0 2 6 1 0 3 6 2 4 2 0 10 9 1 0 1 6 16 0 1 4 1 6 1 0 6 6 3 0 3 6 1 0 4 6 3
    0 2 6 1 0 1 6 1 0 2 6 3 0 2 6 3 0 3 6 3 0 12 6 4 0 5 4 3 0 3 4 1 0 4 4 2 0 1 6 6 0 1 4 14 0 10 9
    16 0 5 4 8 6 1 0 3 6 1 0 23 6 1 0 16 6 2 0 1 4 1 6 7 4 1 0 3 4 1 0 4 4 7 0 2 4 1 0 3 6 2 0 1 6 2
    0 2 6 2 4 2 0 10 9 16 0 1 6 3 4 1 0 8 6 1 0 3 6 1 0 23 6 1 0 10 6 1 0 5 6 2 0 1 4 1 6 7 4 1 0 3
    4 1 0 4 4 7 0 2 4 6 0 2 6 1 0 2 6 2 4 2 0 10 9 1 0 2 6 1 4 12 0 4 4 9 6 1 0 3 6 1 0 41 6 2 4 1 6
    7 4 1 0 3 4 1 0 4 4 1 6 5 0 3 6 1 4 7 0 3 6 2 4 2 0 10 9 10 0 6 6 1 0 3 4 1 0 18 6 3 0 24 6 1 0
    9 6 1 0 1 6 2 0 7 6 3 0 1 4 4 0 6 4 1 0 1 4 1 0 8 4 6 0 10 9 2 0 2 4 13 0 48 6 1 4 2 6 7 4 5 0 7
    6 8 4 1 0 10 9 39 0 2 6 1 0 1 6 1 0 5 6 1 0 24 6 1 0 1 6 1 0 10 6 1 4 2 6 9 4 1 6 2 0 5 6 1 0 1
    6 1 0 7 4 1 0 10 9 2 0 4 6 32 0 1 6 23 0 2 4 6 0 10 9 11 0 1 4 1 0 1 4 1 0 1 4 4 2 2 4 8 6 1 0
    36 6 4 0 20 4 1 0 2 4 5 6 11 4 1 0 36 4 9 0 1 4 57 0 43 6 20 4 1 6 10 9 2 13 4 0 6 6 4 4 4 6 3 4
    1 6 3 4 2 6 7 4 3 6 4 4 13 6 12 4 1 6 1 4 10 9 4 4 2 0 38 14 1 0 1 14 5 0 1 14 2 0 43 6 1 0 1 8
    332 6 1 0 4 6 2 0 7 6 1 0 1 6 1 0 4 6 2 0 41 6 1 0 4 6 2 0 33 6 1 0 4 6 2 0 7 6 1 0 1 6 1 0 4 6
    2 0 15 6 1 0 57 6 1 0 4 6 2 0 67 6 2 0 3 4 2 0 1 13 4 0 2 13 23 0 16 6 16 0 86 14 2 0 6 8 3 0
    620 6 1 0 1 13 17 6 1 12 26 6 2 2 3 0 75 6 3 0 11 6 7 0 18 6 4 4 9 0 19 6 3 4 2 13 9 0 18 6 2 4
    12 0 13 6 1 0 3 6 1 0 2 4 12 0 52 6 32 4 2 13 1 0 1 6 4 0 1 6 1 4 2 0 10 9 24 0 1 10 1 13 4 0 1
    10 1 13 1 0 3 4 1 5 1 4 10 9 6 0 89 6 7 0 5 6 2 4 34 6 1 4 1 6 5 0 70 6 10 0 31 6 1 0 12 4 4 0
    12 4 8 0 2 13 10 9 30 6 2 0 5 6 11 0 44 6 4 0 26 6 6 0 11 9 37 0 23 6 5 4 4 0 53 6 10 4 1 0 29 4
    2 0 1 4 10 9 6 0 10 9 13 0 1 6 4 13 4 0 31 4 49 0 5 4 47 6 17 4 8 6 1 0 2 13 10 9 2 13 2 0 2 13
    11 0 9 4 9 0 3 13 3 4 30 6 13 4 2 6 10 9 44 6 14 4 12 0 36 6 20 4 3 0 2 13 3 0 10 9 3 0 3 6 10 9
    36 6 2 13 9 8 1 14 1 8 5 0 43 6 2 0 3 6 16 0 3 4 1 0 21 4 4 6 1 4 6 6 1 4 2 6 3 4 1 6 5 0 192 8
    64 4 1 14 1 8 1 14 1 8 1 14 1 8 1 14 1 8 1 14 1 8 1 14 1 8 1 14 1 8 1 14 1 8 1 14 1 8 1 14 1 8 1
    14 1 8 1 14 1 8 1 14 1 8 1 14 1 8 1 14 1 8 1 14 1 8 1 14 1 8 1 14 1 8 1 14 1 8 1 14 1 8 1 14 1 8
    1 14 1 8 1 14 1 8 1 14 1 8 1 14 1 8 1 14 1 8 1 14 1 8 1 14 1 8 1 14 1 8 1 14 1 8 1 14 1 8 1 14 1
    8 1 14 1 8 1 14 1 8 1 14 1 8 1 14 1 8 1 14 1 8 1 14 1 8 1 14 1 8 1 14 1 8 1 14 1 8 1 14 1 8 1 14
    1 8 1 14 1 8 1 14 1 8 1 14 1 8 1 14 1 8 1 14 1 8 1 14 1 8 1 14 1 8 1 14 1 8 1 14 1 8 1 14 1 8 1
    14 1 8 1 14 1 8 1 14 1 8 1 14 1 8 1 14 1 8 1 14 1 8 1 14 1 8 1 14 1 8 1 14 1 8 1 14 1 8 1 14 1 8
    1 14 1 8 1 14 1 8 1 14 1 8 1 14 1 8 1 14 1 8 1 14 1 8 1 14 1 8 1 14 1 8 1 14 1 8 1 14 1 8 1 14 9
    8 1 14 1 8 1 14 1 8 1 14 1 8 1 14 1 8 1 14 1 8 1 14 1 8 1 14 1 8 1 14 1 8 1 14 1 8 1 14 1 8 1 14
    1 8 1 14 1 8 1 14 1 8 1 14 1 8 1 14 1 8 1 14 1 8 1 14 1 8 1 14 1 8 1 14 1 8 1 14 1 8 1 14 1 8 1
    14 1 8 1 14 1 8 1 14 1 8 1 14 1 8 1 14 1 8 1 14 1 8 1 14 1 8 1 14 1 8 1 14 1 8 1 14 1 8 1 14 1 8
    1 14 1 8 1 14 1 8 1 14 1 8 1 14 1 8 1 14 1 8 1 14 1 8 1 14 1 8 1 14 1 8 1 14 1 8 1 14 1 8 1 14 1
    8 1 14 1 8 1 14 1 8 1 14 1 8 1 14 1 8 1 14 1 8 1 14 9 8 8 14 6 8 2 0 6 14 2 0 8 8 8 14 8 8 8 14
    6 8 2 0 6 14 2 0 8 8 1 0 1 14 1 0 1 14 1 0 1 14 1 0 1 14 8 8 8 14 14 8 2 0 8 8 8 14 8 8 8 14 8 8
    8 14 5 8 1 0 2 8 5 14 1 0 1 8 3 0 3 8 1 0 2 8 5 14 3 0 4 8 2 0 2 8 4 14 4 0 8 8 5 14 5 0 3 8 1 0
    2 8 5 14 3 0 11 12 1 5 2 4 2 5 3 0 2 10 3 0 8 2 4 0 1 1 3 0 2 11 5 5 1 12 9 0 2 2 1 0 2 13 7 0 2
    2 3 13 21 0 1 12 5 5 1 0 10 5 1 0 1 8 11 0 2 2 1 8 13 0 2 2 1 0 13 8 51 0 33 4 17 0 1 14 4 0 1
    14 2 0 1 8 3 14 2 8 3 14 1 8 1 0 1 14 3 0 5 14 6 0 1 14 1 0 1 14 1 0 1 14 1 0 4 14 1 0 1 8 4 14
    1 8 4 6 1 8 2 0 2 8 2 14 5 0 1 14 4 8 4 0 1 8 17 0 16 14 16 8 3 6 1 14 1 8 4 6 383 0 4 2 29 0 2
    2 395 0 26 14 26 8 625 0 6 2 7 0 14 2 79 0 2 2 31 0 10 2 403 0 22 2 63 0 4 2 32 0 2 2 514 0 48
    14 48 8 1 14 1 8 3 14 2 8 1 14 1 8 1 14 1 8 1 14 1 8 4 14 1 8 1 14 2 8 1 14 8 8 3 14 1 8 1 14 1
    8 1 14 1 8 1 14 1 8 1 14 1 8 1 14 1 8 1 14 1 8 1 14 1 8 1 14 1 8 1 14 1 8 1 14 1 8 1 14 1 8 1 14
    1 8 1 14 1 8 1 14 1 8 1 14 1 8 1 14 1 8 1 14 1 8 1 14 1 8 1 14 1 8 1 14 1 8 1 14 1 8 1 14 1 8 1
    14 1 8 1 14 1 8 1 14 1 8 1 14 1 8 1 14 1 8 1 14 1 8 1 14 1 8 1 14 1 8 1 14 1 8 1 14 1 8 1 14 1 8
    1 14 1 8 1 14 1 8 1 14 1 8 1 14 1 8 1 14 1 8 1 14 1 8 1 14 1 8 1 14 1 8 1 14 1 8 1 14 1 8 1 14 1
    8 1 14 1 8 1 14 1 8 1 14 1 8 1 14 1 8 1 14 2 8 6 0 1 14 1 8 1 14 1 8 3 4 1 14 1 8 5 0 3 13 4 0
    38 8 1 0 1 8 5 0 1 8 2 0 56 6 7 0 1 6 15 0 1 4 23 6 9 0 7 6 1 0 7 6 1 0 7 6 1 0 7 6 1 0 7 6 1 0
    7 6 1 0 7 6 1 0 7 6 1 0 32 4 14 2 14 0 2 2 2 0 10 2 4 0 1 13 1 6 12 0 1 13 5 0 1 2 16 0 2 13 8 2
    419 0 1 12 1 10 1 13 2 0 3 6 10 2 2 0 8 2 1 0 3 2 1 0 9 6 6 4 1 0 5 6 2 0 5 6 4 0 86 6 2 0 2 4 2
    0 3 6 1 0 90 6 1 0 4 6 5 0 43 6 1 0 94 6 17 0 32 6 48 0 16 6 512 0 6592 6 64 0 22157 6 67 0 46 6
    1 0 1 13 269 6 1 0 2 13 16 6 10 9 2 6 20 0 1 14 1 8 1 14 1 8 1 14 1 8 1 14 1 8 1 14 1 8 1 14 1 8
    1 14 1 8 1 14 1 8 1 14 1 8 1 14 1 8 1 14 1 8 1 14 1 8 1 14 1 8 1 14 1 8 1 14 1 8 1 14 1 8 1 14 1
    8 1 14 1 8 1 14 1 8 1 14 1 8 1 14 1 8 1 14 1 8 1 14 1 8 1 6 4 4 1 0 10 4 1 0 1 6 1 14 1 8 1 14 1
    8 1 14 1 8 1 14 1 8 1 14 1 8 1 14 1 8 1 14 1 8 1 14 1 8 1 14 1 8 1 14 1 8 1 14 1 8 1 14 1 8 1 14
    1 8 1 14 3 8 2 4 80 6 2 4 1 0 1 13 3 0 1 13 31 0 9 6 2 0 1 14 1 8 1 14 1 8 1 14 1 8 1 14 1 8 1
    14 1 8 1 14 1 8 1 14 3 8 1 14 1 8 1 14 1 8 1 14 1 8 1 14 1 8 1 14 1 8 1 14 1 8 1 14 1 8 1 14 1 8
    1 14 1 8 1 14 1 8 1 14 1 8 1 14 1 8 1 14 1 8 1 14 1 8 1 14 1 8 1 14 1 8 1 14 1 8 1 14 1 8 1 14 1
    8 1 14 1 8 1 14 1 8 1 14 1 8 1 14 1 8 1 14 1 8 1 14 1 8 1 14 1 8 1 14 1 8 1 14 1 8 1 14 1 8 1 14
    1 8 1 14 10 8 1 14 1 8 1 14 1 8 2 14 1 8 1 14 1 8 1 14 1 8 1 14 1 8 1 14 1 8 1 6 2 0 1 14 1 8 1
    14 1 8 1 6 1 14 1 8 1 14 3 8 1 14 1 8 1 14 1 8 1 14 1 8 1 14 1 8 1 14 1 8 1 14 1 8 1 14 1 8 1 14
    1 8 1 14 1 8 1 14 1 8 5 14 1 8 5 14 1 8 1 14 1 8 1 14 1 8 1 14 1 8 1 14 1 8 1 14 1 8 1 14 1 8 1
    14 1 8 4 14 1 8 1 14 1 8 2 14 1 8 2 0 1 14 1 8 1 0 1 8 1 0 1 8 1 14 1 8 1 14 1 8 1 14 1 8 1 14
    21 0 3 8 1 14 1 8 1 6 3 8 7 6 1 4 3 6 1 4 4 6 1 4 23 6 5 4 4 0 1 4 19 0 52 6 2 0 2 13 8 0 2 4 50
    6 18 4 8 0 2 13 10 9 6 0 18 4 6 6 3 0 1 6 1 0 2 6 1 4 10 9 28 6 8 4 1 0 1 13 23 6 13 4 12 0 29 6
    3 0 4 4 47 6 14 4 7 0 2 13 5 0 1 6 10 9 6 0 5 6 1 4 10 6 10 9 5 6 1 0 41 6 14 4 9 0 3 6 1 4 8 6
    2 4 2 0 10 9 3 0 3 13 23 6 3 0 1 6 3 4 50 6 1 4 1 6 3 4 2 6 2 4 5 6 2 4 1 6 1 4 1 6 24 0 3 6 2 0
    11 6 5 4 2 13 3 6 2 4 10 0 6 6 2 0 6 6 2 0 6 6 9 0 7 6 1 0 7 6 1 0 43 8 1 0 14 8 6 0 80 8 35 6 8
    4 1 13 2 4 2 0 10 9 6 0 11172 6 12 0 23 6 4 0 49 6 8452 0 366 6 2 0 106 6 38 0 7 8 12 0 5 8 5 0
    1 6 1 4 10 6 1 0 13 6 1 0 5 6 1 0 1 6 1 0 2 6 1 0 2 6 1 0 108 6 33 0 363 6 2 2 16 0 64 6 2 0 54
    6 40 0 12 6 4 0 16 4 2 10 1 13 2 10 2 13 2 2 7 0 16 4 1 0 2 10 2 0 16 2 2 0 2 2 7 0 2 10 1 1 1 0
    2 10 2 13 1 10 6 2 4 0 1 10 12 0 5 6 1 0 135 6 2 0 1 5 1 0 1 13 6 0 2 2 2 0 2 10 1 1 1 0 10 9 2
    10 3 0 1 13 1 0 26 14 1 2 1 0 1 2 3 0 26 8 1 2 1 0 1 2 1 0 2 2 1 13 2 2 1 10 1 0 56 6 2 4 31 6 3
    0 6 6 2 0 6 6 2 0 6 6 2 0 3 6 28 0 3 5 4 0 12 6 1 0 26 6 1 0 19 6 1 0 2 6 1 0 15 6 2 0 14 6 34 0
    123 6 69 0 53 6 136 0 1 4 130 0 29 6 3 0 49 6 15 0 1 4 31 0 32 6 13 0 30 6 5 0 38 6 5 4 5 0 30 6
    2 0 36 6 4 0 8 6 1 0 5 6 42 0 40 14 40 8 78 6 2 0 10 9 6 0 36 14 4 0 36 8 4 0 40 6 8 0 52 6 12 0
    11 14 1 0 15 14 1 0 7 14 1 0 2 14 1 0 11 8 1 0 15 8 1 0 7 8 1 0 2 8 3 0 52 6 12 0 311 6 9 0 22 6
    10 0 8 6 24 0 1 8 2 6 3 8 1 0 42 8 1 0 9 8 69 0 6 6 2 0 1 6 1 0 44 6 1 0 2 6 3 0 1 6 2 0 23 6 10
    0 23 6 9 0 31 6 65 0 19 6 1 0 2 6 10 0 22 6 10 0 26 6 70 0 56 6 6 0 2 6 64 0 1 6 3 4 1 0 2 4 5 0
    4 4 4 6 1 0 3 6 1 0 29 6 2 0 3 4 4 0 1 4 22 0 2 13 8 0 29 6 3 0 29 6 35 0 8 6 1 0 28 6 2 4 25 0
    54 6 10 0 22 6 10 0 19 6 13 0 18 6 110 0 73 6 55 0 51 14 13 0 51 8 13 0 36 6 4 4 8 0 10 9 6 0 10
    9 6 6 22 14 3 0 5 4 1 0 1 6 22 8 250 0 42 6 1 0 2 4 3 0 2 6 16 0 3 6 55 0 4 4 29 6 10 0 1 6 8 0
    22 6 11 4 4 0 5 13 22 0 18 6 4 4 4 13 38 0 21 6 27 0 23 6 9 0 3 4 53 6 15 4 2 13 29 0 10 9 1 4 2
    6 2 4 1 6 9 0 4 4 45 6 11 4 2 0 1 9 4 13 1 4 10 0 1 9 2 0 25 6 7 0 10 9 6 0 3 4 36 6 14 4 1 0 10
    9 1 0 3 13 1 6 2 4 1 6 8 0 35 6 1 4 2 0 1 6 9 0 3 4 48 6 14 4 4 6 2 13 2 0 4 4 1 13 2 4 10 9 1 6
    1 0 1 6 1 0 2 13 32 0 18 6 1 0 25 6 12 4 2 13 1 0 2 13 1 0 1 4 2 6 1 4 62 0 7 6 1 0 1 6 1 0 4 6
    1 0 15 6 1 0 10 6 1 13 6 0 47 6 12 4 5 0 10 9 6 0 4 4 1 0 8 6 2 0 2 6 2 0 22 6 1 0 7 6 1 0 2 6 1
    0 5 6 1 0 2 4 1 6 7 4 2 0 2 4 2 0 3 4 2 0 1 6 6 0 1 4 5 0 5 6 2 4 2 0 7 4 3 0 5 4 11 0 10 6 1 0
    1 6 2 0 1 6 1 0 38 6 1 0 1 6 9 4 1 0 1 4 2 0 1 4 1 0 4 4 1 0 5 4 1 6 1 4 1 6 2 13 11 0 2 4 29 0
    53 6 18 4 4 6 2 13 3 0 10 9 4 0 1 4 3 6 30 0 48 6 20 4 2 6 1 0 1 6 8 0 10 9 166 0 47 6 7 4 2 0 9
    4 1 0 2 13 5 0 15 13 4 6 2 4 34 0 48 6 17 4 2 13 1 0 1 6 11 0 10 9 38 0 43 6 13 4 1 6 7 0 10 9 6
    0 20 9 28 0 27 6 2 0 15 4 4 0 10 9 2 0 3 13 1 0 7 6 185 0 44 6 15 4 101 0 32 14 32 8 10 9 21 0 8
    6 2 0 1 6 2 0 8 6 1 0 2 6 1 0 24 6 6 4 1 0 2 4 2 0 4 4 1 6 1 4 1 6 2 4 1 13 1 0 1 13 9 0 10 9 70
    0 8 6 2 0 39 6 7 4 2 0 7 4 1 6 1 0 1 6 1 4 27 0 1 6 10 4 40 6 7 4 1 6 4 4 3 0 2 13 3 0 1 4 8 0 1
    6 11 4 46 6 16 4 1 0 2 13 1 6 18 0 73 6 199 0 33 6 15 0 10 9 6 0 9 6 1 0 37 6 8 4 1 0 8 4 1 6 2
    13 13 0 10 9 24 0 30 6 2 0 22 4 1 0 14 4 73 0 7 6 1 0 2 6 1 0 38 6 6 4 3 0 1 4 1 0 2 4 1 0 7 4 1
    6 1 4 8 0 10 9 6 0 6 6 1 0 2 6 1 0 32 6 5 4 1 0 2 4 1 0 5 4 1 6 7 0 10 9 310 0 19 6 4 4 2 13 7 0
    2 4 1 6 1 4 13 6 1 0 34 6 7 4 3 0 5 4 2 13 11 0 10 9 1 4 85 0 1 6 79 0 922 6 102 0 111 6 17 0
    196 6 2636 0 97 6 15 0 1072 6 16 5 1 4 6 6 15 4 10 0 3995 6 5 0 583 6 6841 0 30 6 18 4 10 9 1734
    0 569 6 7 0 31 6 1 0 10 9 4 0 2 13 79 6 1 0 10 9 6 0 30 6 2 0 5 4 1 13 10 0 48 6 7 4 2 13 7 0 4
    6 1 13 11 0 10 9 9 0 21 6 5 0 19 6 432 0 45 6 1 0 2 13 10 9 198 0 32 14 32 8 24 0 1 13 103 0 75
    6 4 0 1 4 1 6 55 4 7 0 4 4 13 6 64 0 2 6 1 0 1 6 1 4 11 0 2 4 14 0 6136 6 8 0 1238 6 41 0 10 6
    8935 0 4 6 1 0 7 6 1 0 2 6 1 0 291 6 15 0 1 6 29 0 3 6 2 0 1 6 14 0 4 6 8 0 396 6 2308 0 107 6 5
    0 13 6 3 0 9 6 7 0 10 6 3 0 2 4 1 13 4 5 4172 0 10 9 518 0 46 4 2 0 23 4 542 0 5 4 3 0 6 4 8 5 8
    4 2 0 7 4 30 0 4 4 148 0 3 4 443 0 26 14 26 8 26 14 7 8 1 0 18 8 26 14 26 8 1 14 1 0 2 14 2 0 1
    14 2 0 2 14 2 0 4 14 1 0 8 14 4 8 1 0 1 8 1 0 7 8 1 0 11 8 26 14 26 8 2 14 1 0 4 14 2 0 8 14 1 0
    7 14 1 0 26 8 2 14 1 0 4 14 1 0 5 14 1 0 1 14 3 0 7 14 1 0 26 8 26 14 26 8 26 14 26 8 26 14 26 8
    26 14 26 8 26 14 26 8 26 14 28 8 2 0 25 14 1 0 25 8 1 0 6 8 25 14 1 0 25 8 1 0 6 8 25 14 1 0 25
    8 1 0 6 8 25 14 1 0 25 8 1 0 6 8 25 14 1 0 25 8 1 0 6 8 1 14 1 8 2 0 50 9 512 0 55 4 4 0 50 4 8
    0 1 4 14 0 1 4 3 0 1 13 18 0 5 4 1 0 15 4 1104 0 10 8 1 6 20 8 6 0 6 8 213 0 7 4 1 0 17 4 2 0 7
    4 1 0 2 4 1 0 5 4 5 0 62 8 33 0 1 4 112 0 45 6 3 0 7 4 7 6 2 0 10 9 4 0 1 6 321 0 30 6 1 4 17 0
    44 6 4 4 10 9 470 0 28 6 4 4 10 9 214 0 30 6 2 4 1 6 10 9 485 0 7 6 1 0 4 6 1 0 2 6 1 0 15 6 1 0
    197 6 11 0 7 4 41 0 34 14 34 8 7 4 1 6 4 0 10 9 1190 0 4 6 1 0 27 6 1 0 2 6 1 0 1 6 2 0 1 6 1 0
    10 6 1 0 4 6 1 0 1 6 1 0 1 6 6 0 1 6 4 0 1 6 1 0 1 6 1 0 1 6 1 0 3 6 1 0 2 6 1 0 1 6 2 0 1 6 1 0
    1 6 1 0 1 6 1 0 1 6 1 0 1 6 1 0 2 6 1 0 1 6 2 0 4 6 1 0 7 6 1 0 4 6 1 0 4 6 1 0 1 6 1 0 10 6 1 0
    17 6 5 0 3 6 1 0 5 6 1 0 17 6 628 0 26 14 6 0 26 14 6 0 26 14 1260 0 3 2 1399 0 10 9 1030 0
    42720 6 32 0 4154 6 6 0 222 6 2 0 5762 6 14 0 7473 6 15 0 622 6 2466 0 542 6 1506 0 4939 6 5 0
    4192 6 711761 0 1 5 30 0 96 4 128 0 240 4 196112 0"

end GridFilter.Unicode
