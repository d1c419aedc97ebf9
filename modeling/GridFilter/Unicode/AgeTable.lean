/-
Ages of the code points: the version of the character set that first assigned
each of them. Versions are numbered from 1 in their order, 0 stands for "not
assigned yet"; a version's set holds the code points of every age up to it.
-/
import GridFilter.Unicode.PackedTable

set_option autoImplicit false

namespace GridFilter.Unicode

/-- Names of the versions, oldest first. -/
def ageNames : List (List String) :=
  [["1.1", "v11"], ["2.0", "v20"], ["2.1", "v21"], ["3.0", "v30"], ["3.1", "v31"], ["3.2", "v32"],
   ["4.0", "v40"], ["4.1", "v41"], ["5.0", "v50"], ["5.1", "v51"], ["5.2", "v52"], ["6.0", "v60"],
   ["6.1", "v61"], ["6.2", "v62"], ["6.3", "v63"], ["7.0", "v70"], ["8.0", "v80"], ["9.0", "v90"],
   ["10.0", "v100"], ["11.0", "v110"], ["12.0", "v120"], ["12.1", "v121"], ["13.0", "v130"],
   ["14.0", "v140"], ["15.0", "v150"], ["15.1", "v151"], ["16.0", "v160"]]

/-- The age of every code point. -/
def ages : Partition := Partition.ofPacked
    "502 1 4 4 30 1 8 4 1 6 1 7 18 4 3 7 11 8 14 9 89 1 5 4 2 7 47 1 1 4 10 1 5 4 17 7 70 1 9 4 1 6 8
    7 5 8 3 7 2 1 1 4 13 6 4 10 2 1 2 10 2 0 1 1 3 9 1 1 1 16 4 0 7 1 1 0 1 1 1 0 20 1 1 0 44 1 1 10
    7 1 1 4 2 6 1 1 1 4 1 1 1 4 1 1 1 4 1 1 1 4 18 1 2 5 1 6 5 7 4 8 1 4 12 1 1 4 66 1 1 4 12 1 1 4
    41 1 1 10 2 4 2 6 4 4 53 1 2 6 2 1 2 6 2 1 2 6 1 9 28 1 2 4 8 1 2 8 2 1 6 9 16 6 4 9 16 10 2 11
    2 12 8 16 1 0 38 1 2 0 7 1 1 20 39 1 1 20 1 1 1 4 2 0 2 16 1 13 1 0 17 2 1 8 13 2 10 1 1 9 9 1 1
    2 3 8 8 0 27 1 4 0 1 20 5 1 11 0 4 7 1 13 1 16 5 10 1 8 1 1 9 7 5 10 1 1 1 15 1 24 1 8 1 1 1 12
    26 1 5 10 19 1 3 4 3 7 6 8 1 12 14 1 2 6 72 1 2 4 5 1 1 4 15 1 1 4 30 1 2 7 10 1 5 4 1 7 14 4 1
    0 30 4 3 7 27 4 2 0 3 7 30 8 18 10 49 4 1 6 14 0 59 9 2 0 3 20 46 11 2 0 15 11 1 0 28 12 2 0 1
    12 1 0 11 19 5 0 31 24 1 0 2 24 5 0 1 27 8 24 1 13 1 16 11 13 6 16 2 17 1 24 8 18 10 23 11 24 1
    20 15 18 1 17 27 13 1 16 1 11 3 1 1 7 53 1 2 12 18 1 1 11 1 12 5 1 1 11 2 12 25 1 2 10 5 12 1 16
    2 11 2 9 1 8 2 9 1 16 3 1 1 0 8 1 2 0 2 1 2 0 22 1 1 0 7 1 1 0 1 1 3 0 4 1 2 0 1 1 1 7 7 1 2 0 2
    1 2 0 3 1 1 8 8 0 1 1 4 0 2 1 1 0 5 1 2 0 21 1 1 11 2 19 1 20 2 0 1 7 1 1 1 7 1 0 6 1 4 0 2 1 2
    0 22 1 1 0 7 1 1 0 2 1 1 0 2 1 1 0 2 1 2 0 1 1 1 0 5 1 4 0 2 1 2 0 3 1 3 0 1 10 7 0 4 1 1 0 1 1
    7 0 15 1 1 10 1 20 10 0 3 1 1 0 7 1 1 7 1 1 1 0 3 1 1 0 22 1 1 0 7 1 1 0 2 1 1 0 5 1 2 0 10 1 1
    0 3 1 1 0 3 1 2 0 1 1 15 0 1 1 3 7 2 0 10 1 1 13 1 7 7 0 1 17 6 19 1 0 3 1 1 0 8 1 2 0 2 1 2 0
    22 1 1 0 7 1 1 0 2 1 1 0 1 7 4 1 2 0 8 1 1 10 2 0 2 1 2 0 3 1 7 0 1 23 2 1 4 0 2 1 1 0 3 1 2 10
    2 0 11 1 1 7 6 12 10 0 2 1 1 0 6 1 3 0 3 1 1 0 4 1 3 0 2 1 1 0 1 1 1 0 2 1 3 0 2 1 3 0 3 1 3 0 8
    1 1 8 3 1 4 0 5 1 3 0 3 1 1 0 4 1 2 0 1 10 6 0 1 1 14 0 1 8 12 1 8 7 5 0 1 16 3 1 1 20 8 1 1 0 3
    1 1 0 23 1 1 0 10 1 1 16 5 1 2 0 1 24 1 10 7 1 1 0 3 1 1 0 4 1 7 0 2 1 1 0 2 10 1 17 2 0 1 24 2
    0 2 1 2 10 2 0 10 1 7 0 1 21 8 10 1 18 1 16 2 1 1 20 8 1 1 0 3 1 1 0 23 1 1 0 10 1 1 0 5 1 2 0 2
    7 7 1 1 0 3 1 1 0 4 1 7 0 2 1 6 0 1 24 1 1 1 0 2 1 2 9 2 0 10 1 1 0 2 9 1 25 12 0 1 19 1 16 2 1
    1 23 8 1 1 0 3 1 1 0 23 1 1 12 16 1 1 12 2 19 1 10 6 1 1 10 1 0 3 1 1 0 4 1 1 12 1 18 4 0 3 18 1
    1 7 18 1 17 2 1 2 10 2 0 10 1 6 10 3 18 7 10 1 0 1 23 2 4 1 0 18 4 3 0 24 4 1 0 9 4 1 0 1 4 2 0
    7 4 3 0 1 4 4 0 6 4 1 0 1 4 1 0 8 4 6 0 10 16 2 0 3 4 12 0 58 1 4 0 29 1 37 0 2 1 1 0 1 1 1 0 1
    21 2 1 1 21 1 1 1 0 1 21 1 1 6 21 4 1 1 21 7 1 1 21 3 1 1 0 1 1 1 0 1 1 2 21 2 1 1 21 13 1 1 21
    3 1 2 0 5 1 1 0 1 1 1 0 6 1 1 25 1 0 10 1 2 0 2 1 2 13 32 0 72 2 1 0 33 2 1 4 2 10 4 0 27 2 4 12
    6 2 1 4 1 2 1 0 21 2 3 4 7 2 1 4 1 2 3 4 1 0 15 4 1 0 1 10 1 4 2 8 3 10 4 11 2 12 37 0 34 4 1 10
    5 4 1 10 2 4 1 10 7 4 3 10 4 4 6 10 26 4 64 10 4 11 2 10 38 1 1 0 1 13 5 0 1 13 2 0 39 1 2 6 2 8
    1 1 1 8 3 13 90 1 5 11 68 1 5 11 82 1 6 11 7 4 1 8 63 4 1 8 1 4 1 0 4 4 2 0 7 4 1 0 1 4 1 0 4 4
    2 0 39 4 1 8 1 4 1 0 4 4 2 0 31 4 1 8 1 4 1 0 4 4 2 0 7 4 1 0 1 4 1 0 4 4 2 0 7 4 1 8 7 4 1 0 23
    4 1 8 31 4 1 8 1 4 1 0 4 4 2 0 7 4 1 8 39 4 1 8 19 4 2 0 2 12 2 8 28 4 3 0 26 8 6 0 85 4 1 17 2
    0 6 17 2 0 1 11 630 4 9 11 29 4 3 0 81 4 8 16 7 0 13 6 1 24 7 6 1 24 9 0 1 24 23 6 9 0 20 6 12 0
    13 6 1 0 3 6 1 0 2 6 12 0 93 4 1 7 2 0 10 4 6 0 10 7 6 0 15 4 1 24 10 4 6 0 88 4 1 20 7 0 42 4 1
    10 5 0 70 11 10 0 29 7 2 16 1 0 12 7 4 0 12 7 4 0 1 7 3 0 42 7 2 0 5 7 11 0 42 8 2 11 4 0 26 8 6
    0 10 8 1 11 3 0 2 8 32 7 28 8 2 0 2 8 63 11 1 0 29 11 2 0 11 11 6 0 10 11 6 0 14 11 2 0 15 16 2
    23 14 24 49 0 76 9 1 24 1 0 2 27 45 9 2 24 1 27 43 10 3 13 12 10 6 13 52 12 8 0 4 12 56 10 3 0
    15 10 3 0 51 10 9 18 2 27 5 0 43 20 2 0 3 20 8 13 8 0 35 11 4 13 1 19 2 16 1 21 5 0 108 7 88 8 7
    9 28 10 15 16 4 19 1 24 1 18 1 12 1 11 2 9 155 1 1 2 4 10 90 1 6 10 22 1 2 0 6 1 2 0 38 1 2 0 6
    1 2 0 8 1 1 0 1 1 1 0 1 1 1 0 1 1 1 0 31 1 2 0 53 1 1 0 15 1 1 0 14 1 2 0 6 1 1 0 19 1 2 0 3 1 1
    0 9 1 1 0 47 1 1 4 23 1 1 6 6 4 5 6 2 7 2 8 1 6 7 8 5 6 1 10 1 0 4 15 7 1 1 6 2 0 27 1 1 0 5 8 8
    12 3 0 11 1 1 2 1 3 3 4 2 6 4 8 3 11 1 12 1 14 3 16 1 17 1 19 1 24 15 0 18 1 2 4 7 6 1 8 4 9 1
    10 15 0 57 1 2 4 1 7 1 8 15 6 1 8 2 9 1 10 3 11 48 1 1 4 1 9 4 10 1 11 2 17 4 0 91 1 9 4 12 6
    242 1 14 6 1 1 1 4 121 1 1 4 1 6 30 4 52 6 2 7 11 8 12 9 1 11 11 12 7 16 4 18 1 19 37 1 2 4 3 27
    22 0 11 1 21 0 139 1 20 6 1 7 150 1 10 6 80 1 8 4 8 6 20 1 2 7 2 6 1 8 1 4 86 1 2 4 12 6 2 8 10
    6 8 7 11 8 1 10 2 11 2 7 16 8 1 9 10 10 3 11 4 10 10 11 1 12 19 11 1 12 1 11 4 12 24 11 1 16 4 1
    1 12 4 1 2 12 28 1 1 12 35 1 1 12 1 1 1 12 4 1 3 12 1 1 1 11 7 1 2 12 7 1 14 6 31 1 3 12 24 1 1
    12 14 1 1 12 7 8 4 9 1 13 1 10 1 13 2 12 28 6 4 10 16 6 256 4 512 6 14 7 6 8 7 9 5 10 4 9 41 10
    3 16 5 10 5 11 26 16 2 0 32 16 1 0 1 23 34 16 3 20 12 16 1 21 8 16 1 19 25 20 4 17 15 20 1 21 47
    8 1 24 47 8 1 24 13 9 3 10 1 11 3 10 4 9 6 10 2 11 107 8 7 11 2 13 5 0 45 8 1 0 1 13 5 0 1 13 2
    0 54 8 2 13 7 0 1 8 1 12 14 0 1 12 23 8 9 0 7 8 1 0 7 8 1 0 7 8 1 0 7 8 1 0 7 8 1 0 7 8 1 0 7 8
    1 0 7 8 1 0 32 10 24 8 4 10 2 8 19 10 1 11 10 13 7 16 2 18 5 19 5 20 1 21 3 23 11 24 34 0 26 4 1
    0 89 4 12 0 214 4 26 0 12 4 4 26 56 1 3 4 3 6 1 4 1 1 1 0 84 1 2 6 2 0 6 1 2 6 94 1 1 6 5 0 40 1
    1 10 1 19 1 20 1 0 94 1 1 0 16 1 24 4 3 12 5 23 16 8 20 10 2 27 9 0 1 26 16 6 29 1 2 7 1 0 36 1
    12 11 1 7 15 6 28 1 2 7 1 8 50 1 15 6 12 1 4 7 47 1 1 22 119 1 4 7 99 1 2 7 31 1 1 7 6582 4 10
    23 64 7 20902 1 22 8 8 10 8 11 1 13 9 17 21 19 5 20 13 23 3 24 1165 4 3 0 18 4 2 6 16 4 1 6 12 4
    1 6 3 4 1 6 1 4 9 0 48 11 300 10 20 0 32 10 2 12 18 10 8 13 28 10 6 16 1 17 1 13 88 11 8 0 23 8
    4 9 5 10 2 9 107 10 2 12 1 17 2 12 2 13 12 16 10 12 1 13 3 16 1 18 1 20 2 16 6 17 2 20 6 21 2 24
    5 21 4 23 3 27 2 0 2 24 1 0 1 24 1 0 5 24 3 27 21 0 3 24 2 23 1 16 2 13 1 12 5 10 44 8 1 23 3 0
    10 11 6 0 56 9 8 0 69 10 1 18 8 0 12 10 6 0 28 11 2 17 2 20 84 10 11 0 1 10 29 11 3 0 78 11 1 0
    11 11 4 0 2 11 31 16 1 0 55 10 9 0 14 10 2 0 10 10 2 0 4 10 28 11 4 16 67 11 24 0 5 11 23 13 10
    0 6 12 2 0 6 12 2 0 6 12 9 0 7 12 1 0 7 12 1 0 48 16 4 17 2 16 2 21 4 23 4 0 80 17 46 11 2 0 10
    11 6 0 11172 2 12 0 23 11 4 0 49 11 4 0 2048 2 6702 1 2 13 59 6 3 11 2 0 106 8 38 0 7 1 12 0 5 1
    5 0 1 4 25 1 1 0 5 1 1 0 1 1 1 0 2 1 1 0 2 1 1 0 108 1 16 12 1 24 16 0 365 1 16 24 64 1 2 0 54 1
    7 0 1 24 32 5 12 1 1 6 1 7 2 24 16 6 10 8 6 0 4 1 3 10 7 16 2 17 21 1 2 6 2 7 10 1 1 0 19 1 1 0
    4 1 4 0 3 1 1 6 1 1 1 0 135 1 2 0 1 1 1 0 94 1 2 6 94 1 3 0 6 1 2 0 6 1 2 0 6 1 2 0 3 1 3 0 7 1
    1 0 7 1 10 0 3 4 1 3 3 1 12 7 1 0 26 7 1 0 19 7 1 0 2 7 1 0 15 7 2 0 14 7 34 0 123 7 5 0 3 7 4 0
    45 7 3 0 9 7 75 8 2 16 2 18 1 0 12 10 1 23 3 0 1 16 47 0 46 10 130 0 29 10 3 0 49 10 15 0 28 16
    4 0 31 5 1 16 4 5 9 0 3 19 27 5 5 0 43 16 5 0 30 7 1 0 1 7 36 8 4 0 14 8 42 0 38 5 2 7 38 5 80 7
    2 0 10 7 6 0 36 18 4 0 36 18 4 0 40 16 8 0 52 16 11 0 1 16 11 24 1 0 15 24 1 0 7 24 1 0 2 24 1 0
    11 24 1 0 15 24 1 0 7 24 1 0 2 24 3 0 52 27 12 0 311 16 9 0 22 16 10 0 8 16 24 0 6 24 1 0 42 24
    1 0 9 24 69 0 6 7 2 0 1 7 1 0 44 7 1 0 2 7 3 0 1 7 2 0 1 7 22 11 1 0 9 11 63 16 8 0 9 16 48 0 19
    17 1 0 2 17 5 0 5 17 26 9 2 11 3 0 1 9 26 10 5 0 1 10 64 0 56 13 4 0 2 17 2 13 16 17 2 0 46 17 4
    8 1 0 2 8 5 0 8 8 1 0 3 8 1 0 27 8 2 20 2 0 3 8 4 0 9 8 1 20 7 0 9 8 7 0 32 11 32 16 32 0 39 16
    4 0 12 16 9 0 54 11 3 0 29 11 2 0 27 11 5 0 8 11 18 16 7 0 4 16 12 0 7 16 80 0 73 11 55 0 51 17
    13 0 51 17 7 0 6 17 40 20 8 0 10 20 6 0 38 27 3 0 29 27 8 0 2 27 208 0 31 11 1 0 42 23 1 0 3 23
    2 0 2 23 16 0 3 27 55 0 1 27 3 25 40 20 8 0 42 20 22 0 26 24 38 0 28 23 20 0 23 21 9 0 78 12 4 0
    30 12 6 24 9 0 1 16 66 11 1 24 10 0 1 20 2 0 25 13 7 0 10 13 6 0 53 13 1 0 14 13 3 20 1 23 8 0
    39 16 9 0 73 13 4 17 1 16 2 23 10 13 1 16 5 17 1 0 20 16 11 0 18 16 1 0 43 16 1 18 3 25 62 0 7
    17 1 0 1 17 1 0 4 17 1 0 15 17 1 0 11 17 6 0 59 16 5 0 10 16 6 0 1 17 3 16 1 0 8 16 2 0 2 16 2 0
    22 16 1 0 7 16 1 0 2 16 1 0 5 16 1 0 1 20 9 16 2 0 2 16 2 0 3 16 2 0 1 17 6 0 1 16 5 0 7 16 2 0
    7 16 3 0 5 16 11 0 10 27 1 0 1 27 2 0 1 27 1 0 38 27 1 0 10 27 1 0 1 27 2 0 1 27 1 0 4 27 1 0 10
    27 1 0 2 27 8 0 2 27 29 0 90 18 1 23 1 18 1 0 1 18 1 20 1 21 2 23 30 0 72 16 8 0 10 16 166 0 54
    16 2 0 18 16 20 17 34 0 69 16 11 0 10 16 6 0 13 18 19 0 56 13 1 21 1 24 6 0 10 13 6 0 20 27 28 0
    26 17 1 20 2 0 15 17 4 0 16 17 7 24 185 0 60 20 100 0 83 16 12 0 1 16 7 23 2 0 1 23 2 0 8 23 1 0
    2 23 1 0 30 23 1 0 2 23 2 0 12 23 9 0 10 23 70 0 8 21 2 0 46 21 2 0 11 21 27 0 72 19 8 0 52 19 2
    21 23 19 1 20 5 19 13 0 16 24 57 16 7 0 10 25 182 0 34 27 14 0 10 27 6 0 9 18 1 0 45 18 1 0 14
    18 10 0 29 18 3 0 32 18 2 0 22 18 1 0 14 18 73 0 7 19 1 0 2 19 1 0 44 19 3 0 1 19 1 0 2 19 1 0 9
    19 8 0 10 19 6 0 6 20 1 0 2 20 1 0 37 20 1 0 2 20 1 0 6 20 7 0 10 20 310 0 25 20 7 0 17 25 1 0
    41 25 3 0 28 25 1 27 85 0 1 23 15 0 50 21 13 0 1 21 879 9 42 16 1 17 102 0 99 9 12 16 1 0 4 9 1
    16 11 0 196 17 2636 0 99 24 13 0 1071 11 1 25 9 21 29 25 10 0 3995 27 5 0 583 17 6841 0 58 27
    1734 0 569 12 7 0 31 16 1 0 10 16 4 0 2 16 79 24 1 0 10 24 6 0 30 16 2 0 6 16 10 0 70 16 10 0 10
    16 1 0 7 16 1 0 21 16 5 0 19 16 432 0 58 27 198 0 91 20 101 0 69 13 6 21 4 0 1 21 47 13 9 21 7 0
    17 13 64 0 1 18 1 19 2 21 1 23 11 0 2 23 14 0 6125 18 5 20 6 21 8 0 755 18 483 23 41 0 1 27 9 23
    8935 0 4 24 1 0 7 24 1 0 2 24 1 0 2 12 285 19 4 24 15 0 1 25 29 0 3 21 2 0 1 25 14 0 4 21 8 0
    396 19 2308 0 107 16 5 0 13 16 3 0 9 16 7 0 10 16 2 0 8 16 3932 0 250 27 6 0 436 27 76 0 46 24 2
    0 23 24 9 0 116 24 60 0 246 5 10 0 39 5 2 0 1 10 180 5 11 17 2 24 21 0 70 8 122 0 20 25 12 0 20
    20 12 0 87 7 9 0 18 9 7 20 135 0 85 5 1 0 71 5 1 0 2 5 2 0 1 5 2 0 2 5 2 0 4 5 1 0 12 5 1 0 1 5
    1 0 4 5 1 7 2 5 1 0 65 5 1 0 4 5 2 0 8 5 1 0 7 5 1 0 28 5 1 0 4 5 1 0 5 5 1 0 1 5 3 0 7 5 1 0
    338 5 2 8 2 0 290 5 2 9 2 0 50 5 652 17 15 0 5 17 1 0 15 17 1104 0 31 24 6 0 6 25 213 0 7 18 1 0
    17 18 2 0 7 18 1 0 2 18 1 0 5 18 5 0 62 25 33 0 1 25 112 0 45 21 3 0 14 21 2 0 10 21 4 0 2 21
    320 0 31 24 17 0 58 21 5 0 1 21 464 0 42 25 214 0 43 27 4 0 1 27 480 0 7 24 1 0 4 24 1 0 2 24 1
    0 15 24 1 0 197 16 2 0 16 16 41 0 75 18 1 21 4 0 10 18 4 0 2 18 785 0 68 20 76 0 61 21 194 0 4
    13 1 0 27 13 1 0 2 13 1 0 1 13 2 0 1 13 1 0 10 13 1 0 4 13 1 0 1 13 1 0 1 13 6 0 1 13 4 0 1 13 1
    0 1 13 1 0 1 13 1 0 3 13 1 0 2 13 1 0 1 13 2 0 1 13 1 0 1 13 1 0 1 13 1 0 1 13 1 0 1 13 1 0 2 13
    1 0 1 13 2 0 4 13 1 0 7 13 1 0 4 13 1 0 4 13 1 0 1 13 1 0 10 13 1 0 17 13 5 0 3 13 1 0 5 13 1 0
    17 13 52 0 2 13 270 0 44 10 4 0 100 10 12 0 15 12 2 0 14 12 1 16 1 0 15 12 1 0 15 12 22 16 10 0
    11 11 2 16 3 23 31 11 1 20 1 12 1 11 11 12 1 11 1 12 1 11 2 12 1 11 3 12 1 11 3 12 5 11 8 12 1
    11 7 12 1 11 10 12 2 13 1 21 3 23 9 12 1 11 1 12 2 11 2 12 1 11 10 12 4 11 2 12 1 11 10 12 18 18
    1 23 56 0 26 12 1 11 2 12 13 0 34 11 9 12 1 18 4 0 9 11 7 0 2 12 14 0 6 19 154 0 33 12 12 16 3
    17 6 12 1 16 70 12 1 16 2 17 20 12 12 16 37 12 1 16 5 12 4 16 5 17 12 16 17 12 7 16 8 17 63 12 1
    16 1 12 1 16 182 12 1 16 4 12 2 16 1 17 62 12 2 16 4 13 7 16 5 17 24 12 18 16 1 18 41 16 1 18 86
    16 5 12 1 13 16 12 1 13 3 12 1 13 1 12 1 13 1 12 1 13 1 12 1 13 3 12 1 13 6 12 2 13 4 12 1 13 1
    12 2 13 4 12 1 13 12 12 2 16 2 17 11 12 48 16 70 12 10 16 1 17 2 18 2 19 1 21 2 23 4 0 1 25 3 24
    13 16 3 0 4 16 3 18 2 19 1 20 1 21 2 23 3 0 116 12 3 25 4 0 5 25 85 16 4 20 1 25 6 0 12 21 4 0 1
    24 15 0 12 16 4 0 56 16 8 0 10 16 6 0 40 16 8 0 30 16 2 0 2 23 10 27 4 0 2 27 62 0 12 19 1 23 3
    21 9 17 6 18 1 19 8 18 8 19 1 18 2 19 12 18 1 21 12 18 1 19 3 20 15 18 13 19 5 20 1 21 1 23 4 20
    2 23 1 24 1 20 1 21 4 20 5 17 13 18 6 19 11 20 2 23 6 21 3 23 2 21 10 20 6 21 1 17 2 20 8 21 1
    23 1 24 3 21 23 19 25 20 84 21 12 0 14 20 2 0 4 21 1 23 3 25 3 21 2 24 3 0 3 21 4 23 2 25 1 27 5
    0 1 27 6 21 19 23 4 24 3 25 7 23 4 24 3 25 1 27 1 25 3 23 3 24 1 27 7 0 2 25 7 23 3 24 2 25 1 27
    2 0 1 27 8 24 1 25 1 27 6 0 7 24 2 25 7 0 147 23 1 0 55 23 37 27 10 23 1028 0 2 2 42711 5 7 23 2
    24 32 0 4149 11 4 24 1 25 6 0 222 12 2 0 5762 17 14 0 7473 19 15 0 622 26 2466 0 542 5 1504 0 2
    2 4939 23 5 0 4192 25 56398 0 2 2 65534 0 2 2 65534 0 2 2 65534 0 2 2 65534 0 2 2 65534 0 2 2
    65534 0 2 2 65534 0 2 2 65534 0 2 2 65534 0 2 2 65534 0 2 2 1 0 1 5 30 0 96 5 128 0 240 7 65038
    0 131074 2"

end GridFilter.Unicode
