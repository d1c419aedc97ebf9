/-
Scripts of the code points.

Every code point has one script; the table is a partition whose numbers are the
positions of the scripts in the list of names. A code point that is used with
several scripts is listed among the extensions with all of them, and its own
script (usually "common" or "inherited") then no longer counts.
-/
import GridFilter.Unicode.PackedTable

set_option autoImplicit false

namespace GridFilter.Unicode

/-- Names of the scripts, written as they are compared; a script's number is its
position in the list. -/
def scriptNames : List (List String) :=
  [["adlm", "adlam"], ["ahom"], ["hluw", "anatolianhieroglyphs"], ["arab", "arabic"],
   ["armn", "armenian"], ["avst", "avestan"], ["bali", "balinese"], ["bamu", "bamum"],
   ["bass", "bassavah"], ["batk", "batak"], ["beng", "bengali"], ["bhks", "bhaiksuki"],
   ["bopo", "bopomofo"], ["brah", "brahmi"], ["brai", "braille"], ["bugi", "buginese"],
   ["buhd", "buhid"], ["cans", "canadianaboriginal"], ["cari", "carian"],
   ["aghb", "caucasianalbanian"], ["cakm", "chakma"], ["cham"], ["cher", "cherokee"],
   ["chrs", "chorasmian"], ["zyyy", "common"], ["copt", "coptic", "qaac"], ["xsux", "cuneiform"],
   ["cprt", "cypriot"], ["cpmn", "cyprominoan"], ["cyrl", "cyrillic"], ["dsrt", "deseret"],
   ["deva", "devanagari"], ["diak", "divesakuru"], ["dogr", "dogra"], ["dupl", "duployan"],
   ["egyp", "egyptianhieroglyphs"], ["elba", "elbasan"], ["elym", "elymaic"], ["ethi", "ethiopic"],
   ["gara", "garay"], ["geor", "georgian"], ["glag", "glagolitic"], ["goth", "gothic"],
   ["gran", "grantha"], ["grek", "greek"], ["gujr", "gujarati"], ["gong", "gunjalagondi"],
   ["guru", "gurmukhi"], ["gukh", "gurungkhema"], ["hani", "han"], ["hang", "hangul"],
   ["rohg", "hanifirohingya"], ["hano", "hanunoo"], ["hatr", "hatran"], ["hebr", "hebrew"],
   ["hira", "hiragana"], ["armi", "imperialaramaic"], ["zinh", "inherited", "qaai"],
   ["phli", "inscriptionalpahlavi"], ["prti", "inscriptionalparthian"], ["java", "javanese"],
   ["kthi", "kaithi"], ["knda", "kannada"], ["kana", "katakana"], ["kawi"], ["kali", "kayahli"],
   ["khar", "kharoshthi"], ["kits", "khitansmallscript"], ["khmr", "khmer"], ["khoj", "khojki"],
   ["sind", "khudawadi"], ["krai", "kiratrai"], ["laoo", "lao"], ["latn", "latin"],
   ["lepc", "lepcha"], ["limb", "limbu"], ["lina", "lineara"], ["linb", "linearb"], ["lisu"],
   ["lyci", "lycian"], ["lydi", "lydian"], ["mahj", "mahajani"], ["maka", "makasar"],
   ["mlym", "malayalam"], ["mand", "mandaic"], ["mani", "manichaean"], ["marc", "marchen"],
   ["gonm", "masaramgondi"], ["medf", "medefaidrin"], ["mtei", "meeteimayek"],
   ["mend", "mendekikakui"], ["merc", "meroiticcursive"], ["mero", "meroitichieroglyphs"],
   ["plrd", "miao"], ["modi"], ["mong", "mongolian"], ["mroo", "mro"], ["mult", "multani"],
   ["mymr", "myanmar"], ["nbat", "nabataean"], ["nagm", "nagmundari"], ["nand", "nandinagari"],
   ["talu", "newtailue"], ["newa"], ["nkoo", "nko"], ["nshu", "nushu"],
   ["hmnp", "nyiakengpuachuehmong"], ["ogam", "ogham"], ["olck", "olchiki"], ["onao", "olonal"],
   ["hung", "oldhungarian"], ["ital", "olditalic"], ["narb", "oldnortharabian"],
   ["perm", "oldpermic"], ["xpeo", "oldpersian"], ["sogo", "oldsogdian"],
   ["sarb", "oldsoutharabian"], ["orkh", "oldturkic"], ["ougr", "olduyghur"], ["orya", "oriya"],
   ["osge", "osage"], ["osma", "osmanya"], ["hmng", "pahawhhmong"], ["palm", "palmyrene"],
   ["pauc", "paucinhau"], ["phag", "phagspa"], ["phnx", "phoenician"], ["phlp", "psalterpahlavi"],
   ["rjng", "rejang"], ["runr", "runic"], ["samr", "samaritan"], ["saur", "saurashtra"],
   ["shrd", "sharada"], ["shaw", "shavian"], ["sidd", "siddham"], ["sgnw", "signwriting"],
   ["sinh", "sinhala"], ["sogd", "sogdian"], ["sora", "sorasompeng"], ["soyo", "soyombo"],
   ["sund", "sundanese"], ["sunu", "sunuwar"], ["sylo", "sylotinagri"], ["syrc", "syriac"],
   ["tglg", "tagalog"], ["tagb", "tagbanwa"], ["tale", "taile"], ["lana", "taitham"],
   ["tavt", "taiviet"], ["takr", "takri"], ["taml", "tamil"], ["tnsa", "tangsa"],
   ["tang", "tangut"], ["telu", "telugu"], ["thaa", "thaana"], ["thai"], ["tibt", "tibetan"],
   ["tfng", "tifinagh"], ["tirh", "tirhuta"], ["todr", "todhri"], ["toto"],
   ["tutg", "tulutigalari"], ["ugar", "ugaritic"], [], ["vaii", "vai"], ["vith", "vithkuqi"],
   ["wcho", "wancho"], ["wara", "warangciti"], ["yezi", "yezidi"], ["yiii", "yi"],
   ["zanb", "zanabazarsquare"]]

/-- The script number of every code point. -/
def scripts : Partition := Partition.ofPacked
    "65 24 26 73 6 24 26 73 47 24 1 73 15 24 1 73 5 24 23 73 1 24 31 73 1 24 449 73 39 24 5 73 5 24 2
    12 20 24 112 57 4 44 1 24 3 44 2 163 4 44 1 24 1 44 4 163 1 44 1 24 1 44 1 24 3 44 1 163 1 44 1
    163 20 44 1 163 63 44 14 25 16 44 133 29 2 57 169 29 1 163 38 4 2 163 50 4 2 163 3 4 1 163 55 54
    8 163 27 54 4 163 6 54 11 163 5 3 1 24 6 3 1 24 14 3 1 24 3 3 1 24 32 3 1 24 10 3 11 57 26 3 1
    57 108 3 1 24 34 3 14 143 1 163 60 143 2 163 3 143 48 3 50 154 14 163 59 104 2 163 3 104 46 130
    2 163 15 130 1 163 28 84 2 163 1 84 1 163 11 143 5 163 31 3 1 163 2 3 5 163 75 3 1 24 29 3 81 31
    4 57 15 31 2 24 26 31 4 10 1 163 8 10 2 163 2 10 2 163 22 10 1 163 7 10 1 163 1 10 3 163 4 10 2
    163 9 10 2 163 2 10 2 163 4 10 8 163 1 10 4 163 2 10 1 163 5 10 2 163 25 10 2 163 3 47 1 163 6
    47 4 163 2 47 2 163 22 47 1 163 7 47 1 163 2 47 1 163 2 47 1 163 2 47 2 163 1 47 1 163 5 47 4
    163 2 47 2 163 3 47 3 163 1 47 7 163 4 47 1 163 1 47 7 163 17 47 10 163 3 45 1 163 9 45 1 163 3
    45 1 163 22 45 1 163 7 45 1 163 2 45 1 163 5 45 2 163 10 45 1 163 3 45 1 163 3 45 2 163 1 45 15
    163 4 45 2 163 12 45 7 163 7 45 1 163 3 119 1 163 8 119 2 163 2 119 2 163 22 119 1 163 7 119 1
    163 2 119 1 163 5 119 2 163 9 119 2 163 2 119 2 163 3 119 7 163 3 119 4 163 2 119 1 163 5 119 2
    163 18 119 10 163 2 150 1 163 6 150 3 163 3 150 1 163 4 150 3 163 2 150 1 163 1 150 1 163 2 150
    3 163 2 150 3 163 3 150 3 163 12 150 4 163 5 150 3 163 3 150 1 163 4 150 2 163 1 150 6 163 1 150
    14 163 21 150 5 163 13 153 1 163 3 153 1 163 23 153 1 163 16 153 2 163 9 153 1 163 3 153 1 163 4
    153 7 163 2 153 1 163 3 153 2 163 1 153 2 163 4 153 2 163 10 153 7 163 9 153 13 62 1 163 3 62 1
    163 23 62 1 163 10 62 1 163 5 62 2 163 9 62 1 163 3 62 1 163 4 62 7 163 2 62 6 163 2 62 1 163 4
    62 2 163 10 62 1 163 3 62 12 163 13 83 1 163 3 83 1 163 51 83 1 163 3 83 1 163 6 83 4 163 16 83
    2 163 26 83 1 163 3 136 1 163 18 136 3 163 24 136 1 163 9 136 1 163 1 136 2 163 7 136 3 163 1
    136 4 163 6 136 1 163 1 136 1 163 8 136 6 163 10 136 2 163 3 136 12 163 58 155 4 163 1 24 28 155
    37 163 2 72 1 163 1 72 1 163 5 72 1 163 24 72 1 163 1 72 1 163 23 72 2 163 5 72 1 163 1 72 1 163
    7 72 1 163 10 72 2 163 4 72 32 163 72 156 1 163 36 156 4 163 39 156 1 163 36 156 1 163 15 156 1
    163 7 156 4 24 2 156 37 163 160 98 38 40 1 163 1 40 5 163 1 40 2 163 43 40 1 24 4 40 256 50 73
    38 1 163 4 38 2 163 7 38 1 163 1 38 1 163 4 38 2 163 41 38 1 163 4 38 2 163 33 38 1 163 4 38 2
    163 7 38 1 163 1 38 1 163 4 38 2 163 15 38 1 163 57 38 1 163 4 38 2 163 67 38 2 163 32 38 3 163
    26 38 6 163 86 22 2 163 6 22 2 163 640 17 29 107 3 163 75 129 3 24 11 129 7 163 22 144 9 163 1
    144 21 52 2 24 9 163 20 16 12 163 13 145 1 163 3 145 1 163 2 145 12 163 94 68 2 163 10 68 6 163
    10 68 6 163 2 95 2 24 1 95 1 24 20 95 6 163 89 95 7 163 43 95 5 163 70 17 10 163 31 75 1 163 12
    75 4 163 12 75 4 163 1 75 3 163 12 75 30 146 2 163 5 146 11 163 44 102 4 163 26 102 6 163 11 102
    3 163 2 102 32 68 28 15 2 163 2 15 63 147 1 163 29 147 2 163 11 147 6 163 10 147 6 163 14 147 2
    163 31 57 49 163 77 6 1 163 50 6 64 140 52 9 8 163 4 9 56 74 3 163 15 74 3 163 3 74 48 108 11 29
    5 163 43 40 2 163 3 40 8 140 8 163 3 57 1 24 13 57 1 24 7 57 4 24 1 57 6 24 1 57 3 24 2 57 1 24
    5 163 38 73 5 44 1 29 49 73 5 44 4 73 5 44 13 73 1 29 70 73 1 44 64 57 256 73 22 44 2 163 6 44 2
    163 38 44 2 163 6 44 2 163 8 44 1 163 1 44 1 163 1 44 1 163 1 44 1 163 31 44 2 163 53 44 1 163
    15 44 1 163 14 44 2 163 6 44 1 163 19 44 2 163 3 44 1 163 9 44 1 163 12 24 2 57 87 24 1 163 11
    24 1 73 2 163 11 24 1 73 15 24 1 163 13 73 3 163 33 24 15 163 33 57 15 163 38 24 1 44 3 24 2 73
    6 24 1 73 27 24 1 73 17 24 41 73 3 24 4 163 666 24 22 163 11 24 21 163 928 24 256 14 628 24 2
    163 32 24 1 163 105 24 96 41 32 73 116 25 5 163 7 25 38 40 1 163 1 40 5 163 1 40 2 163 56 157 7
    163 2 157 14 163 1 157 23 38 9 163 7 38 1 163 7 38 1 163 7 38 1 163 7 38 1 163 7 38 1 163 7 38 1
    163 7 38 1 163 7 38 1 163 32 29 94 24 34 163 26 49 1 163 89 49 12 163 214 49 26 163 21 24 1 49 1
    24 1 49 25 24 9 49 4 57 2 50 8 24 4 49 4 24 1 163 86 55 2 163 2 57 2 24 3 55 1 24 90 63 2 24 3
    63 5 163 43 12 1 163 94 50 1 163 16 24 32 12 38 24 9 163 1 24 16 63 31 50 1 163 64 24 31 50 81
    24 47 63 1 24 88 63 168 24 6592 49 64 24 20992 49 1165 169 3 163 55 169 9 163 48 78 300 164 20
    163 96 29 88 7 8 163 34 24 102 73 3 24 67 73 2 163 2 73 1 163 1 73 1 163 8 73 21 163 14 73 45
    142 3 163 10 24 6 163 56 125 8 163 70 131 8 163 12 131 6 163 32 31 46 65 1 24 1 65 36 128 11 163
    1 128 29 50 3 163 78 60 1 163 1 24 10 60 4 163 2 60 31 98 1 163 55 21 9 163 14 21 2 163 10 21 2
    163 4 21 32 98 67 148 24 163 5 148 23 89 10 163 6 38 2 163 6 38 2 163 6 38 9 163 7 38 1 163 7 38
    1 163 43 73 1 24 9 73 1 44 4 73 2 24 4 163 80 22 46 89 2 163 10 89 6 163 11172 50 12 163 23 50 4
    163 49 50 8452 163 366 49 2 163 106 49 38 163 7 73 12 163 5 4 5 163 26 54 1 163 5 54 1 163 1 54
    1 163 2 54 1 163 2 54 1 163 10 54 115 3 16 163 363 3 2 24 80 3 2 163 54 3 7 163 1 3 32 163 16 3
    16 57 10 24 6 163 14 57 2 29 35 24 1 163 19 24 1 163 4 24 4 163 5 3 1 163 135 3 2 163 1 24 1 163
    32 24 26 73 6 24 26 73 11 24 10 63 1 24 45 63 2 24 31 50 3 163 6 50 2 163 6 50 2 163 6 50 2 163
    3 50 3 163 7 24 1 163 7 24 10 163 5 24 2 163 12 77 1 163 26 77 1 163 19 77 1 163 2 77 1 163 15
    77 2 163 14 77 34 163 123 77 5 163 3 24 4 163 45 24 3 163 9 24 79 44 1 163 13 24 3 163 1 44 47
    163 45 24 1 57 130 163 29 79 3 163 49 18 15 163 1 57 27 24 4 163 36 111 9 163 3 111 27 42 5 163
    43 113 5 163 30 162 1 163 1 162 36 114 4 163 14 114 42 163 80 30 48 133 30 121 2 163 10 121 6
    163 36 120 4 163 36 120 4 163 40 36 8 163 52 19 11 163 1 19 11 165 1 163 15 165 1 163 7 165 1
    163 2 165 1 163 11 165 1 163 15 165 1 163 7 165 1 163 2 165 3 163 52 159 12 163 311 76 9 163 22
    76 10 163 8 76 24 163 6 73 1 163 42 73 1 163 9 73 69 163 6 27 2 163 1 27 1 163 44 27 1 163 2 27
    3 163 1 27 2 163 1 27 22 56 1 163 9 56 32 123 31 99 8 163 9 99 48 163 19 53 1 163 2 53 5 163 5
    53 28 126 3 163 1 126 26 80 5 163 1 80 64 163 32 92 24 91 4 163 20 91 2 163 46 91 4 66 1 163 2
    66 5 163 8 66 1 163 3 66 1 163 29 66 2 163 3 66 4 163 10 66 7 163 9 66 7 163 32 116 32 112 32
    163 39 85 4 163 12 85 9 163 54 5 3 163 7 5 22 59 2 163 8 59 19 58 5 163 8 58 18 127 7 163 4 127
    12 163 7 127 80 163 73 117 55 163 51 110 13 163 51 110 7 163 6 110 40 51 8 163 10 51 6 163 38 39
    3 163 29 39 8 163 2 39 208 163 31 3 1 163 42 168 1 163 3 168 2 163 2 168 16 163 3 3 55 163 4 3
    40 115 8 163 42 137 22 163 26 118 38 163 28 23 20 163 23 37 9 163 78 13 4 163 36 13 9 163 1 13
    67 61 10 163 1 61 2 163 25 138 7 163 10 138 6 163 53 20 1 163 18 20 8 163 39 81 9 163 96 132 1
    163 20 136 11 163 18 69 1 163 47 69 62 163 7 97 1 163 1 97 1 163 4 97 1 163 15 97 1 163 11 97 6
    163 59 70 5 163 10 70 6 163 4 43 1 163 8 43 2 163 2 43 2 163 22 43 1 163 7 43 1 163 2 43 1 163 5
    43 1 163 1 57 9 43 2 163 2 43 2 163 3 43 2 163 1 43 6 163 1 43 5 163 7 43 2 163 7 43 3 163 5 43
    11 163 10 161 1 163 1 161 2 163 1 161 1 163 38 161 1 163 10 161 1 163 1 161 2 163 1 161 1 163 4
    161 1 163 10 161 1 163 2 161 8 163 2 161 29 163 92 103 1 163 5 103 30 163 72 158 8 163 10 158
    166 163 54 134 2 163 38 134 34 163 69 94 11 163 10 94 6 163 13 95 19 163 58 149 6 163 10 149 6
    163 20 98 28 163 27 1 2 163 15 1 4 163 23 1 185 163 60 33 100 163 83 167 12 163 1 167 7 32 2 163
    1 32 2 163 8 32 1 163 2 32 1 163 30 32 1 163 2 32 2 163 12 32 9 163 10 32 70 163 8 101 2 163 46
    101 2 163 11 101 27 163 72 170 8 163 83 139 13 163 16 17 57 124 7 163 10 31 182 163 34 141 14
    163 10 141 6 163 9 11 1 163 45 11 1 163 14 11 10 163 29 11 3 163 32 86 2 163 22 86 1 163 14 86
    73 163 7 87 1 163 2 87 1 163 44 87 3 163 1 87 1 163 2 87 1 163 9 87 8 163 10 87 6 163 6 46 1 163
    2 46 1 163 37 46 1 163 2 46 1 163 6 46 7 163 10 46 310 163 25 82 7 163 17 64 1 163 41 64 3 163
    29 64 85 163 1 78 15 163 50 150 13 163 1 150 922 26 102 163 111 26 1 163 5 26 11 163 196 26 2636
    163 99 28 13 163 1110 35 10 163 3995 35 5 163 583 2 6841 163 58 48 1734 163 569 7 7 163 31 96 1
    163 10 96 4 163 2 96 79 151 1 163 10 151 6 163 30 8 2 163 6 8 10 163 70 122 10 163 10 122 1 163
    7 122 1 163 21 122 5 163 19 122 432 163 58 71 198 163 91 88 101 163 75 93 4 163 57 93 7 163 17
    93 64 163 1 152 1 105 2 49 1 67 11 163 2 49 14 163 6136 152 8 163 768 152 470 67 41 163 1 67 9
    152 8935 163 4 63 1 163 7 63 1 163 2 63 1 163 1 63 287 55 3 63 15 163 1 55 29 163 3 55 2 163 1
    63 14 163 4 63 8 163 396 105 2308 163 107 34 5 163 13 34 3 163 9 34 7 163 10 34 2 163 4 34 4 24
    3932 163 250 24 6 163 436 24 76 163 46 57 2 163 23 57 9 163 116 24 60 163 246 24 10 163 39 24 2
    163 62 24 3 57 17 24 8 57 2 24 7 57 30 24 4 57 61 24 21 163 70 44 122 163 20 24 12 163 20 24 12
    163 87 24 9 163 25 24 135 163 85 24 1 163 71 24 1 163 2 24 2 163 1 24 2 163 2 24 2 163 4 24 1
    163 12 24 1 163 1 24 1 163 7 24 1 163 65 24 1 163 4 24 2 163 8 24 1 163 7 24 1 163 28 24 1 163 4
    24 1 163 5 24 1 163 1 24 3 163 7 24 1 163 340 24 2 163 292 24 2 163 50 24 652 135 15 163 5 135 1
    163 15 135 1104 163 31 73 6 163 6 73 213 163 7 41 1 163 17 41 2 163 7 41 1 163 2 41 1 163 5 41 5
    163 62 29 33 163 1 29 112 163 45 106 3 163 14 106 2 163 10 106 4 163 2 106 320 163 31 160 17 163
    58 166 5 163 1 166 464 163 42 100 214 163 43 109 4 163 1 109 480 163 7 38 1 163 4 38 1 163 2 38
    1 163 15 38 1 163 197 90 2 163 16 90 41 163 76 0 4 163 10 0 4 163 2 0 785 163 68 24 76 163 61 24
    194 163 4 3 1 163 27 3 1 163 2 3 1 163 1 3 2 163 1 3 1 163 10 3 1 163 4 3 1 163 1 3 1 163 1 3 6
    163 1 3 4 163 1 3 1 163 1 3 1 163 1 3 1 163 3 3 1 163 2 3 1 163 1 3 2 163 1 3 1 163 1 3 1 163 1
    3 1 163 1 3 1 163 1 3 1 163 2 3 1 163 1 3 2 163 4 3 1 163 7 3 1 163 4 3 1 163 4 3 1 163 1 3 1
    163 10 3 1 163 17 3 5 163 3 3 1 163 5 3 1 163 17 3 52 163 2 3 270 163 44 24 4 163 100 24 12 163
    15 24 2 163 15 24 1 163 15 24 1 163 37 24 10 163 174 24 56 163 26 24 1 55 2 24 13 163 44 24 4
    163 9 24 7 163 2 24 14 163 6 24 154 163 984 24 4 163 17 24 3 163 13 24 3 163 119 24 4 163 95 24
    6 163 12 24 4 163 1 24 15 163 12 24 4 163 56 24 8 163 10 24 6 163 40 24 8 163 30 24 2 163 12 24
    4 163 2 24 62 163 340 24 12 163 14 24 2 163 13 24 3 163 10 24 5 163 56 24 7 163 15 24 2 163 11
    24 6 163 9 24 7 163 147 24 1 163 102 24 1030 163 42720 49 32 163 4154 49 6 163 222 49 2 163 5762
    49 14 163 7473 49 15 163 622 49 2466 163 542 49 1506 163 4939 49 5 163 4192 49 711761 163 1 24
    30 163 96 24 128 163 240 57 196112 163"

/-- Code points used with several scripts: for each run the code points skipped
since the one before, its length, how many scripts it has, and their numbers. -/
def packedScriptExtensions : String :=
    "183 1 16 5 18 25 34 36 40 41 42 44 46 49 73 80 81 113 133 516 1 7 10 29 31 73 78 155 160 10 1 2
    12 73 1 3 2 12 73 1 1 2 73 78 9 1 2 73 155 1 1 2 12 73 38 1 8 22 25 29 44 73 113 141 146 0 1 8
    22 29 44 73 120 141 146 159 0 1 4 22 29 73 157 0 1 5 41 73 141 143 155 0 1 11 19 22 25 29 42 44
    73 120 143 157 159 0 1 6 25 36 41 42 63 73 0 1 5 29 44 73 113 157 0 1 9 25 34 54 73 113 143 146
    157 159 0 1 11 4 29 34 42 44 54 73 113 143 146 157 0 1 2 73 157 0 1 3 34 73 143 0 1 4 22 29 73
    120 0 1 3 22 73 146 0 1 2 73 141 0 1 2 38 73 1 1 2 73 141 0 1 3 29 73 159 1 1 4 44 73 113 159 12
    1 2 73 143 2 1 6 22 34 63 73 143 157 0 1 4 22 34 73 143 0 1 2 73 143 7 1 3 73 141 143 0 1 2 73
    143 1 1 3 22 73 143 0 1 7 19 22 42 73 141 143 155 16 1 1 44 2 1 1 44 18 1 2 73 120 5 1 3 19 73
    159 4 13 1 73 4 2 2 25 44 269 1 2 29 113 0 1 2 29 41 0 2 2 29 73 0 1 2 29 41 257 1 3 4 40 41 130
    1 7 3 39 51 104 143 154 168 14 1 7 3 39 51 104 143 154 168 0 1 3 3 143 154 2 1 8 0 3 39 51 104
    143 154 168 32 1 9 0 3 51 84 85 118 127 137 143 10 11 2 3 143 10 10 3 3 154 168 6 1 2 3 143 99 1
    2 3 51 636 1 15 10 31 43 45 47 62 73 83 101 103 119 132 150 153 158 0 1 13 10 31 43 45 47 62 73
    83 103 119 150 153 158 17 1 21 10 31 33 43 45 46 47 62 70 81 83 87 101 109 119 136 142 149 150
    153 158 0 1 23 10 31 33 43 45 46 47 48 62 70 75 81 83 87 101 109 119 136 142 149 150 153 158 0
    10 4 31 33 61 81 118 10 3 10 20 142 118 10 2 47 97 118 10 2 45 69 246 14 2 43 150 242 10 3 62
    101 161 848 10 3 20 98 146 177 1 3 40 41 73 1519 3 1 129 71 2 4 16 52 144 145 203 2 2 95 125 1 1
    2 95 125 1226 1 4 10 31 43 62 0 1 1 31 0 1 4 10 31 43 62 0 1 3 31 43 62 0 1 1 31 0 1 5 10 31 103
    153 158 0 1 3 10 31 153 0 1 3 31 103 132 0 1 4 10 31 103 153 0 1 2 31 132 0 1 6 31 62 83 119 150
    153 0 1 1 31 0 2 2 31 132 0 2 1 31 0 1 2 31 132 0 1 2 10 31 0 1 3 31 103 158 0 6 1 31 0 1 3 31
    101 103 0 1 3 10 31 132 0 1 2 31 103 0 1 1 31 0 1 4 10 31 103 132 0 4 1 31 0 1 11 10 31 43 62 83
    101 119 136 153 158 161 0 1 2 31 43 0 1 4 31 43 62 161 0 2 2 10 31 0 1 1 10 0 2 2 31 43 0 1 1
    101 197 2 1 44 54 1 3 29 73 143 1 1 1 143 564 1 3 73 95 125 31 1 2 0 3 10 1 6 18 40 41 79 110
    117 2 1 4 18 44 92 110 146 1 3 31 43 73 3366 1 2 25 73 24 1 2 5 117 0 1 7 5 18 40 61 80 110 130
    10 1 1 34 4 1 3 0 3 110 1 1 2 29 41 428 16 2 49 152 1 1 7 12 49 50 55 63 95 169 0 1 8 12 49 50
    55 63 95 125 169 0 1 5 12 49 50 55 63 2 1 1 49 1 2 8 12 49 50 55 63 95 156 169 0 2 9 12 49 50 55
    63 78 95 156 169 0 6 6 12 49 50 55 63 169 1 1 5 12 49 50 55 63 0 8 6 12 49 50 55 63 169 0 4 5 12
    49 50 55 63 10 4 2 12 49 2 1 5 12 49 50 55 63 0 5 2 55 63 1 1 5 12 49 50 55 63 4 2 3 49 55 63 0
    2 1 49 89 4 2 55 63 3 1 2 55 63 90 1 6 12 49 50 55 63 169 0 1 2 55 63 147 16 1 49 32 38 1 49 9 1
    2 49 152 48 40 1 49 56 49 1 49 15 12 1 49 51 1 1 49 88 25 1 49 10 5 1 49 96 31 1 49 29296 1 2 29
    41 144 8 2 49 73 296 3 16 31 33 45 47 61 62 69 70 81 83 94 101 132 149 158 161 0 3 15 31 33 45
    47 61 62 69 70 81 94 101 132 149 158 161 0 2 11 31 33 45 47 61 69 70 81 94 149 158 0 1 12 31 33
    45 47 61 69 70 81 94 132 149 158 0 1 11 31 33 45 47 61 69 70 81 94 149 158 183 1 3 10 31 161 1 1
    2 31 150 58 1 3 65 73 98 160 1 2 15 60 21358 2 2 3 104 178 1 2 3 154 10 1 2 3 154 71 2 5 12 49
    50 55 63 282 5 6 12 49 50 55 63 169 10 1 2 55 63 45 2 2 55 63 352 2 3 27 28 77 0 1 2 27 77 4 45
    3 27 76 77 3 9 2 27 77 416 28 2 3 25 2038 1 2 85 118 2062 1 2 43 150 1 1 2 43 150 55 2 2 43 150
    3219 2 2 43 150 1 1 2 43 150 40140 4 1 34 5820 18 1 49 7902 2 1 49"

end GridFilter.Unicode
