/-
# General categories

Every Unicode character has a general category, which says what kind of character it is: a capital,
a digit, a currency symbol and so on.  The table of this file lists the code points in order, by
runs of the same category.
-/
import DocBlock.Text.Basic

namespace DocBlock

/-- A general category, under the abbreviation that the standard has for it. -/
inductive Category where
  /-- An uppercase letter. -/
  | lu
  /-- A lowercase letter. -/
  | ll
  /-- A titlecase letter. -/
  | lt
  /-- A modifier letter. -/
  | lm
  /-- Another letter. -/
  | lo
  /-- A nonspacing mark. -/
  | mn
  /-- A spacing mark. -/
  | mc
  /-- An enclosing mark. -/
  | me
  /-- A decimal digit. -/
  | nd
  /-- A letterlike number. -/
  | nl
  /-- Another number. -/
  | no
  /-- A connector. -/
  | pc
  /-- A dash. -/
  | pd
  /-- An opening bracket. -/
  | ps
  /-- A closing bracket. -/
  | pe
  /-- An opening quotation mark. -/
  | pi
  /-- A closing quotation mark. -/
  | pf
  /-- Another punctuation mark. -/
  | po
  /-- A mathematical symbol. -/
  | sm
  /-- A currency symbol. -/
  | sc
  /-- A modifier symbol. -/
  | sk
  /-- Another symbol. -/
  | so
  /-- A space. -/
  | zs
  /-- A line separator. -/
  | zl
  /-- A paragraph separator. -/
  | zp
  /-- A control character. -/
  | cc
  /-- A format control. -/
  | cf
  /-- A half of a surrogate pair. -/
  | cs
  /-- A code point for private use. -/
  | co
  /-- A code point that stands for no character. -/
  | cn
  deriving DecidableEq, Repr

namespace Category

/-- All categories, in the order of their numbers in the table. -/
def all : List Category :=
  [lu, ll, lt, lm, lo, mn, mc, me, nd, nl, no, pc, pd, ps, pe, pi, pf, po, sm, sc, sk, so, zs, zl,
    zp, cc, cf, cs, co, cn]

/-- The runs of code points with the same category.  A number stands for one run: it is 32 times the
length of the run plus the number of the category. -/
def runTable : List (List Nat) :=
  [[1049, 54, 113, 51, 113, 45, 46, 49, 50, 49, 44, 81, 328, 81, 114, 81, 832, 45, 49, 46, 52,
    43, 52, 833, 45, 50, 46, 50, 1081, 54, 49, 147, 53, 49, 52, 53, 36, 47, 50, 58, 53, 52, 53,
    50, 74, 52, 33, 81, 52, 42, 36, 48, 106, 49, 736, 50, 224, 769, 50, 257, 32, 33, 32, 33,
    32, 33, 32, 33, 32, 33, 32, 33, 32, 33, 32, 33, 32, 33, 32, 33, 32, 33, 32, 33, 32, 33, 32,
    33, 32, 33, 32, 33, 32, 33, 32, 33, 32, 33, 32, 33, 32, 33, 32, 33, 32, 33, 32, 33, 32, 33,
    32, 33, 32, 33, 32, 65, 32, 33, 32, 33, 32, 33, 32, 33, 32, 33, 32, 33, 32, 33, 32, 65, 32,
    33, 32, 33, 32, 33, 32, 33, 32, 33, 32, 33, 32, 33, 32, 33, 32, 33, 32, 33, 32, 33, 32, 33,
    32, 33, 32, 33, 32, 33, 32, 33, 32, 33, 32, 33, 32, 33, 32, 33, 32, 33, 32, 33, 32, 33, 64,
    33, 32, 33, 32, 97, 64, 33, 32, 33, 64, 33, 96, 65, 128, 33, 64, 33, 96, 97, 64, 33, 64,
    33, 32, 33, 32, 33, 64, 33, 32, 65, 32, 33, 64, 33, 96, 33, 32, 33, 64, 65, 36, 32, 97,
    132, 32, 34, 33, 32, 34, 33, 32, 34, 33, 32, 33, 32, 33, 32, 33, 32, 33, 32, 33, 32, 33,
    32, 33, 32, 65, 32, 33, 32, 33, 32, 33, 32],
   [33, 32, 33, 32, 33, 32, 33, 32, 33, 32, 65, 32, 34, 33, 32, 33, 96, 33, 32, 33, 32, 33, 32,
    33, 32, 33, 32, 33, 32, 33, 32, 33, 32, 33, 32, 33, 32, 33, 32, 33, 32, 33, 32, 33, 32, 33,
    32, 33, 32, 33, 32, 33, 32, 33, 32, 33, 32, 33, 32, 33, 32, 33, 32, 33, 32, 33, 32, 33, 32,
    33, 32, 33, 32, 33, 32, 225, 64, 33, 64, 65, 32, 33, 128, 33, 32, 33, 32, 33, 32, 33, 32,
    2209, 36, 865, 579, 148, 387, 468, 163, 244, 35, 52, 35, 564, 3589, 32, 33, 32, 33, 35, 52,
    32, 33, 93, 35, 97, 49, 32, 157, 84, 32, 49, 96, 61, 32, 61, 64, 33, 544, 61, 288, 1121,
    32, 65, 96, 97, 32, 33, 32, 33, 32, 33, 32, 33, 32, 33, 32, 33, 32, 33, 32, 33, 32, 33, 32,
    33, 32, 33, 32, 161, 32, 33, 50, 32, 33, 64, 65, 1632, 1537, 32, 33, 32, 33, 32, 33, 32,
    33, 32, 33, 32, 33, 32, 33, 32, 33, 32, 33, 32, 33, 32, 33, 32, 33, 32, 33, 32, 33, 32, 33,
    32, 33, 32, 33, 53, 165, 71, 32, 33, 32, 33, 32, 33, 32, 33, 32, 33, 32, 33, 32, 33, 32,
    33, 32, 33, 32, 33, 32, 33, 32, 33, 32, 33, 32, 33, 32, 33, 32, 33, 32, 33, 32, 33, 32, 33,
    32, 33, 32, 33, 32, 33, 32, 33, 32, 33, 32, 33],
   [32, 33, 32, 33, 64, 33, 32, 33, 32, 33, 32, 33, 32, 33, 32, 33, 32, 65, 32, 33, 32, 33, 32,
    33, 32, 33, 32, 33, 32, 33, 32, 33, 32, 33, 32, 33, 32, 33, 32, 33, 32, 33, 32, 33, 32, 33,
    32, 33, 32, 33, 32, 33, 32, 33, 32, 33, 32, 33, 32, 33, 32, 33, 32, 33, 32, 33, 32, 33, 32,
    33, 32, 33, 32, 33, 32, 33, 32, 33, 32, 33, 32, 33, 32, 33, 32, 33, 32, 33, 32, 33, 32, 33,
    32, 33, 32, 33, 32, 33, 32, 33, 32, 33, 32, 33, 32, 33, 32, 33, 32, 33, 32, 33, 32, 33, 61,
    1216, 93, 35, 209, 1313, 49, 44, 93, 85, 51, 61, 1445, 44, 37, 49, 69, 49, 69, 49, 37, 285,
    868, 157, 132, 81, 381, 218, 114, 81, 51, 81, 85, 357, 49, 58, 113, 1028, 35, 324, 677,
    328, 145, 68, 37, 3172, 49, 36, 229, 58, 53, 197, 67, 69, 53, 133, 68, 328, 100, 85, 36,
    465, 61, 58, 36, 37, 964, 869, 93, 2852, 357, 36, 477, 328, 1060, 293, 67, 53, 113, 35, 93,
    37, 83, 708, 133, 35, 293, 35, 101, 35, 165, 93, 497, 61, 804, 101, 93, 49, 61, 356, 189,
    772, 52, 196, 61, 90, 221, 261, 1316, 35, 773, 58, 1029, 38, 1732, 37, 38, 37, 36, 102,
    261, 134, 37, 70, 36, 229, 324, 69, 81, 328, 49, 35, 484, 37, 70, 61, 260, 93, 68, 93, 708,
    61],
   [228, 61, 36, 125, 132, 93, 37, 36, 102, 133, 93, 70, 93, 70, 37, 36, 285, 38, 157, 68, 61,
    100, 69, 93, 328, 68, 83, 202, 53, 51, 36, 49, 37, 93, 69, 38, 61, 196, 157, 68, 93, 708,
    61, 228, 61, 68, 61, 68, 61, 68, 93, 37, 61, 102, 69, 157, 69, 93, 101, 125, 37, 253, 132,
    61, 36, 253, 328, 69, 100, 37, 49, 349, 69, 38, 61, 292, 61, 100, 61, 708, 61, 228, 61, 68,
    61, 164, 93, 37, 36, 102, 165, 61, 69, 38, 61, 70, 37, 93, 36, 509, 68, 69, 93, 328, 49,
    51, 253, 36, 197, 61, 37, 70, 61, 260, 93, 68, 93, 708, 61, 228, 61, 68, 61, 164, 93, 37,
    36, 38, 37, 38, 133, 93, 70, 93, 70, 37, 253, 69, 38, 157, 68, 61, 100, 69, 93, 328, 53,
    36, 202, 349, 37, 36, 61, 196, 125, 100, 61, 132, 125, 68, 61, 36, 61, 68, 125, 68, 125,
    100, 125, 388, 157, 70, 37, 70, 125, 102, 61, 102, 37, 93, 36, 221, 38, 477, 328, 106, 213,
    51, 53, 189, 37, 102, 37, 260, 61, 100, 61, 740, 61, 516, 93, 37, 36, 101, 134, 61, 101,
    61, 133, 253, 69, 61, 100, 93, 36, 93, 68, 69, 93, 328, 253, 49, 234, 53, 36, 37, 70, 49,
    260, 61, 100, 61, 740, 61, 324, 61, 164, 93, 37, 36, 38, 37, 166, 61, 37, 70, 61, 70, 69,
    253, 70, 221, 68, 61, 68, 69],
   [93, 328, 61, 68, 38, 413, 69, 70, 292, 61, 100, 61, 1316, 69, 36, 102, 133, 61, 102, 61,
    102, 37, 36, 53, 157, 100, 38, 234, 100, 69, 93, 328, 298, 53, 196, 61, 37, 70, 61, 580,
    125, 772, 61, 292, 61, 36, 93, 228, 125, 37, 157, 102, 101, 61, 37, 61, 262, 221, 328, 93,
    70, 49, 413, 1540, 37, 68, 229, 157, 51, 196, 35, 261, 49, 328, 81, 1213, 68, 61, 36, 61,
    164, 61, 772, 61, 36, 61, 324, 37, 68, 293, 36, 93, 164, 61, 35, 61, 229, 61, 328, 93, 132,
    1053, 36, 117, 497, 53, 49, 117, 69, 213, 328, 330, 53, 37, 53, 37, 53, 37, 45, 46, 45, 46,
    70, 260, 61, 1156, 157, 453, 38, 165, 49, 69, 164, 357, 61, 1157, 61, 277, 37, 213, 61, 85,
    177, 149, 81, 1213, 1380, 70, 133, 38, 197, 38, 69, 70, 69, 36, 328, 209, 196, 70, 69, 132,
    101, 36, 102, 68, 230, 100, 133, 420, 37, 70, 69, 198, 37, 36, 38, 328, 102, 37, 85, 1216,
    61, 32, 189, 32, 93, 1377, 49, 35, 97, 10532, 61, 132, 93, 228, 61, 36, 61, 132, 93, 1316,
    61, 132, 93, 1060, 61, 132, 93, 228, 61, 36, 61, 132, 93, 484, 61, 1828, 61, 132, 93, 2148,
    93, 101, 305, 650, 125, 516, 341, 221, 2752, 93, 193, 93, 44, 19844, 53, 49, 548, 54, 836,
    45, 46, 125, 2404, 113, 105, 260, 253, 580, 101, 38, 317, 612, 69, 38],
   [81, 317, 580, 69, 413, 420, 61, 100, 61, 69, 413, 1668, 69, 38, 229, 262, 37, 70, 357, 113,
    35, 113, 51, 36, 37, 93, 328, 221, 330, 221, 209, 44, 145, 101, 58, 37, 328, 221, 1124, 35,
    1700, 253, 164, 69, 1092, 37, 36, 189, 2244, 349, 996, 61, 101, 134, 69, 102, 157, 70, 37,
    198, 101, 157, 53, 125, 81, 328, 964, 93, 164, 381, 1412, 157, 836, 221, 328, 42, 125,
    1109, 740, 69, 70, 37, 93, 81, 1700, 38, 37, 38, 229, 61, 37, 38, 37, 70, 261, 198, 325,
    93, 37, 328, 221, 328, 221, 241, 35, 209, 93, 453, 39, 517, 1597, 133, 38, 1508, 37, 38,
    165, 38, 37, 166, 37, 70, 260, 125, 328, 241, 341, 293, 309, 81, 61, 69, 38, 964, 38, 133,
    70, 69, 38, 101, 68, 328, 1412, 37, 38, 69, 102, 37, 38, 101, 70, 285, 145, 1156, 262, 261,
    70, 69, 125, 177, 328, 125, 100, 328, 964, 195, 81, 289, 253, 1376, 93, 96, 273, 285, 101,
    49, 421, 38, 229, 132, 37, 196, 37, 68, 38, 69, 36, 189, 1409, 2019, 417, 35, 1089, 1187,
    2053, 32, 33, 32, 33, 32, 33, 32, 33, 32, 33, 32, 33, 32, 33, 32, 33, 32, 33, 32, 33, 32,
    33, 32, 33, 32, 33, 32, 33, 32, 33, 32, 33, 32, 33, 32, 33, 32, 33, 32, 33, 32, 33, 32, 33,
    32, 33, 32, 33, 32, 33, 32, 33, 32, 33, 32, 33, 32, 33, 32, 33, 32],
   [33, 32, 33, 32, 33, 32, 33, 32, 33, 32, 33, 32, 33, 32, 33, 32, 33, 32, 33, 32, 33, 32, 33,
    32, 33, 32, 33, 32, 33, 32, 33, 32, 33, 32, 33, 32, 33, 32, 33, 32, 33, 32, 33, 32, 33, 32,
    33, 32, 33, 32, 33, 32, 33, 32, 33, 32, 33, 32, 33, 32, 33, 32, 33, 32, 33, 32, 33, 32, 33,
    32, 33, 32, 33, 32, 33, 32, 33, 32, 33, 32, 33, 32, 33, 32, 33, 32, 33, 32, 289, 32, 33,
    32, 33, 32, 33, 32, 33, 32, 33, 32, 33, 32, 33, 32, 33, 32, 33, 32, 33, 32, 33, 32, 33, 32,
    33, 32, 33, 32, 33, 32, 33, 32, 33, 32, 33, 32, 33, 32, 33, 32, 33, 32, 33, 32, 33, 32, 33,
    32, 33, 32, 33, 32, 33, 32, 33, 32, 33, 32, 33, 32, 33, 32, 33, 32, 33, 32, 33, 32, 33, 32,
    33, 32, 33, 32, 33, 32, 33, 32, 33, 32, 33, 32, 33, 32, 33, 32, 33, 32, 33, 32, 33, 32, 33,
    32, 33, 32, 289, 256, 193, 93, 192, 93, 257, 256, 257, 256, 193, 93, 192, 93, 257, 61, 32,
    61, 32, 61, 32, 61, 32, 257, 256, 449, 93, 257, 258, 257, 258, 257, 258, 161, 61, 65, 128,
    34, 52, 33, 116, 97, 61, 65, 128, 34, 116, 129, 93, 65, 128, 61, 116, 257, 160, 116, 93,
    97, 61, 65, 128, 34, 84, 61, 374, 186, 204, 81, 47, 48],
   [45, 79, 48, 45, 47, 273, 55, 56, 186, 54, 305, 47, 48, 145, 75, 113, 50, 45, 46, 369, 50,
    49, 43, 337, 54, 186, 61, 346, 42, 35, 93, 202, 114, 45, 46, 35, 330, 114, 45, 46, 61, 419,
    125, 1075, 509, 421, 135, 37, 103, 389, 509, 85, 32, 149, 32, 85, 33, 96, 65, 96, 33, 53,
    32, 85, 50, 160, 213, 32, 53, 32, 53, 32, 53, 128, 53, 33, 128, 33, 132, 33, 85, 65, 64,
    178, 32, 129, 53, 50, 85, 33, 53, 522, 1129, 32, 33, 137, 42, 85, 157, 178, 181, 82, 149,
    50, 85, 50, 85, 50, 245, 50, 1013, 82, 85, 50, 53, 50, 1013, 8594, 277, 45, 46, 45, 46,
    661, 82, 245, 45, 46, 2613, 50, 981, 818, 1301, 210, 2229, 829, 373, 701, 1930, 2517, 714,
    5877, 50, 309, 50, 1749, 274, 3573, 50, 7957, 45, 46, 45, 46, 45, 46, 45, 46, 45, 46, 45,
    46, 45, 46, 970, 1429, 178, 45, 46, 1010, 45, 46, 45, 46, 45, 46, 45, 46, 45, 46, 530,
    8213, 4210, 45, 46, 45, 46, 45, 46, 45, 46, 45, 46, 45, 46, 45, 46, 45, 46, 45, 46, 45, 46,
    45, 46, 2034, 45, 46, 45, 46, 1042, 45, 46, 8274, 1557, 690, 85, 210, 1269, 93, 1045, 61,
    3381, 1536, 1537, 32, 33, 96, 65, 32, 33, 32, 33, 32, 33, 128, 33, 32, 65, 32, 193, 67, 96,
    33, 32, 33, 32, 33, 32, 33, 32, 33, 32, 33, 32, 33],
   [32, 33, 32, 33, 32, 33, 32, 33, 32, 33, 32, 33, 32, 33, 32, 33, 32, 33, 32, 33, 32, 33, 32,
    33, 32, 33, 32, 33, 32, 33, 32, 33, 32, 33, 32, 33, 32, 33, 32, 33, 32, 33, 32, 33, 32, 33,
    32, 33, 32, 33, 32, 33, 32, 33, 32, 33, 32, 33, 32, 33, 32, 33, 32, 33, 32, 33, 32, 33, 32,
    33, 32, 33, 32, 33, 32, 33, 32, 33, 32, 33, 32, 33, 32, 33, 32, 65, 213, 32, 33, 32, 33,
    101, 32, 33, 189, 145, 42, 81, 1217, 61, 33, 189, 33, 93, 1796, 253, 35, 49, 477, 37, 740,
    317, 228, 61, 228, 61, 228, 61, 228, 61, 228, 61, 228, 61, 228, 61, 228, 61, 1029, 81, 47,
    48, 47, 48, 113, 47, 48, 49, 47, 48, 305, 44, 81, 44, 49, 47, 48, 81, 47, 48, 45, 46, 45,
    46, 45, 46, 45, 46, 177, 35, 337, 76, 145, 44, 49, 45, 433, 85, 113, 45, 46, 45, 46, 45,
    46, 45, 46, 44, 1117, 853, 61, 2869, 413, 6869, 861, 405, 157, 54, 113, 53, 35, 36, 41, 45,
    46, 45, 46, 45, 46, 45, 46, 45, 46, 85, 45, 46, 45, 46, 45, 46, 45, 46, 44, 45, 78, 53,
    297, 133, 70, 44, 163, 85, 105, 35, 36, 49, 85, 61, 2756, 93, 69, 84, 67, 36, 44, 2884, 49,
    99, 36, 189, 1380, 61, 3012, 61, 85, 138, 341, 1028, 1173, 413, 516, 1013, 61, 330, 981,
    266],
   [53, 490, 1045, 330, 1269, 490, 10261, 210948, 2069, 672420, 35, 36580, 125, 1781, 317,
    1284, 195, 81, 8580, 35, 113, 516, 328, 68, 669, 32, 33, 32, 33, 32, 33, 32, 33, 32, 33,
    32, 33, 32, 33, 32, 33, 32, 33, 32, 33, 32, 33, 32, 33, 32, 33, 32, 33, 32, 33, 32, 33, 32,
    33, 32, 33, 32, 33, 32, 33, 32, 33, 32, 33, 32, 33, 36, 37, 103, 49, 325, 49, 35, 32, 33,
    32, 33, 32, 33, 32, 33, 32, 33, 32, 33, 32, 33, 32, 33, 32, 33, 32, 33, 32, 33, 32, 33, 32,
    33, 32, 33, 67, 69, 2244, 329, 69, 209, 285, 756, 291, 84, 32, 33, 32, 33, 32, 33, 32, 33,
    32, 33, 32, 33, 32, 97, 32, 33, 32, 33, 32, 33, 32, 33, 32, 33, 32, 33, 32, 33, 32, 33, 32,
    33, 32, 33, 32, 33, 32, 33, 32, 33, 32, 33, 32, 33, 32, 33, 32, 33, 32, 33, 32, 33, 32, 33,
    32, 33, 32, 33, 32, 33, 32, 33, 32, 33, 32, 33, 32, 33, 32, 33, 32, 33, 32, 33, 32, 33, 35,
    257, 32, 33, 32, 33, 64, 33, 32, 33, 32, 33, 32, 33, 32, 33, 35, 84, 32, 33, 32, 33, 36,
    32, 33, 32, 97, 32, 33, 32, 33, 32, 33, 32, 33, 32, 33, 32, 33, 32, 33, 32, 33, 32, 33, 32,
    33, 160, 33, 160, 33, 32, 33, 32, 33, 32, 33, 32, 33, 32, 33, 32, 33, 32],
   [33, 128, 33, 32, 33, 189, 32, 33, 61, 33, 61, 33, 32, 33, 32, 33, 797, 99, 32, 33, 36, 67,
    33, 228, 37, 100, 37, 132, 37, 740, 70, 69, 38, 149, 37, 125, 202, 85, 51, 53, 221, 1668,
    145, 285, 70, 1604, 518, 69, 285, 81, 328, 221, 581, 196, 113, 36, 49, 68, 37, 328, 900,
    261, 81, 740, 357, 70, 381, 49, 932, 125, 101, 38, 1508, 37, 70, 133, 70, 69, 102, 433, 61,
    35, 328, 157, 81, 164, 37, 35, 292, 328, 164, 61, 1316, 197, 70, 69, 70, 69, 317, 100, 37,
    260, 37, 38, 93, 328, 93, 145, 516, 35, 196, 117, 36, 38, 37, 38, 1604, 37, 36, 101, 68,
    69, 164, 69, 36, 37, 36, 797, 68, 35, 81, 356, 38, 69, 70, 81, 36, 67, 38, 37, 349, 196,
    93, 196, 93, 196, 317, 228, 61, 228, 61, 1377, 52, 131, 289, 35, 84, 157, 2561, 1124, 70,
    37, 70, 37, 70, 49, 38, 37, 93, 328, 221, 357508, 413, 740, 157, 1572, 157, 65563, 204828,
    11716, 93, 3396, 1245, 225, 413, 161, 189, 36, 37, 324, 50, 420, 61, 164, 61, 36, 61, 68,
    61, 68, 61, 3460, 564, 541, 11620, 46, 45, 533, 2052, 93, 1732, 253, 53, 1053, 388, 51,
    117, 517, 241, 45, 46, 49, 221, 517, 49, 76, 75, 45, 46, 45, 46, 45, 46, 45, 46, 45, 46,
    45, 46, 45, 46, 45, 46, 81, 45, 46, 145, 107, 113, 61, 145, 44, 45, 46, 45, 46],
   [45, 46, 113, 50, 44, 114, 61, 49, 51, 81, 157, 164, 61, 4324, 93, 58, 61, 113, 51, 113, 45,
    46, 49, 50, 49, 44, 81, 328, 81, 114, 81, 832, 45, 49, 46, 52, 43, 52, 833, 45, 50, 46, 50,
    45, 46, 49, 45, 46, 81, 324, 35, 1444, 67, 996, 125, 196, 93, 196, 93, 196, 93, 100, 125,
    83, 50, 52, 53, 83, 61, 53, 146, 85, 349, 122, 85, 93, 388, 61, 836, 61, 612, 61, 68, 61,
    484, 93, 452, 1117, 3940, 189, 113, 157, 1450, 125, 309, 1705, 138, 565, 74, 117, 61, 437,
    125, 53, 1533, 1461, 37, 4189, 932, 125, 1572, 509, 37, 874, 157, 1028, 138, 317, 644, 41,
    260, 41, 189, 1220, 165, 189, 964, 61, 49, 1156, 157, 260, 49, 169, 1373, 1280, 1281, 2500,
    93, 328, 221, 1152, 157, 1153, 157, 1284, 285, 1668, 381, 49, 352, 61, 480, 61, 224, 61,
    64, 61, 353, 61, 481, 61, 225, 61, 65, 2173, 9956, 317, 708, 349, 260, 797, 195, 61, 1347,
    61, 291, 2237, 196, 93, 36, 61, 1412, 61, 68, 125, 36, 93, 740, 61, 49, 266, 740, 85, 234,
    996, 285, 298, 1565, 612, 61, 68, 189, 170, 708, 202, 125, 49, 836, 189, 49, 2077, 1796,
    157, 74, 68, 522, 93, 1482, 36, 101, 61, 69, 189, 133, 132, 61, 100, 61, 932, 93, 101, 157,
    37, 298, 253, 305, 253, 932, 74, 49, 932, 106, 1053, 260, 53, 900, 69, 157, 170, 241, 317,
    1732, 125, 241, 708],
   [93, 266, 612, 189, 266, 580, 253, 145, 413, 234, 2589, 2340, 1789, 1632, 445, 1633, 253,
    202, 1156, 133, 285, 328, 9437, 1002, 61, 1348, 61, 69, 44, 93, 68, 2429, 101, 932, 330,
    36, 285, 708, 357, 138, 177, 733, 580, 133, 145, 1245, 676, 234, 669, 740, 317, 38, 37, 38,
    1700, 485, 241, 157, 650, 328, 37, 68, 69, 36, 317, 101, 38, 1444, 102, 133, 70, 69, 81,
    58, 145, 37, 349, 58, 93, 804, 253, 328, 221, 101, 1156, 165, 38, 261, 61, 328, 145, 36,
    70, 36, 285, 1124, 37, 81, 36, 317, 69, 38, 1540, 102, 293, 70, 132, 145, 133, 49, 38, 37,
    328, 36, 49, 36, 113, 61, 650, 381, 580, 61, 804, 102, 101, 70, 37, 38, 69, 209, 37, 68,
    37, 2013, 228, 61, 36, 61, 132, 61, 484, 61, 324, 49, 221, 1508, 37, 102, 261, 189, 328,
    221, 69, 70, 61, 260, 93, 68, 93, 708, 61, 228, 61, 68, 61, 164, 61, 69, 36, 70, 37, 134,
    93, 70, 93, 102, 93, 36, 221, 38, 189, 164, 70, 93, 229, 125, 165, 4477, 1700, 102, 261,
    70, 101, 38, 37, 132, 177, 328, 81, 61, 49, 37, 100, 989, 1540, 102, 197, 38, 37, 134, 69,
    38, 69, 68, 49, 36, 285, 328, 5341, 1508, 102, 133, 93, 134, 69, 38, 69, 753, 132, 69,
    1117, 1540, 102, 261, 70, 37, 38, 69, 113, 36, 381, 328, 221, 433, 637, 1380, 37, 38, 37,
    70, 197, 38, 37, 36, 49, 221],
   [328, 1757, 868, 93, 101, 70, 133, 38, 165, 157, 328, 74, 113, 53, 228, 5949, 1412, 102,
    293, 38, 69, 49, 3229, 1024, 1025, 328, 298, 413, 260, 93, 36, 93, 260, 61, 68, 61, 772,
    198, 61, 70, 93, 69, 38, 37, 36, 38, 36, 38, 37, 113, 317, 328, 2269, 260, 93, 1252, 102,
    133, 93, 69, 134, 37, 36, 49, 36, 38, 893, 36, 325, 1284, 197, 38, 36, 133, 273, 37, 285,
    36, 197, 70, 101, 1476, 421, 38, 69, 113, 36, 177, 445, 2340, 253, 337, 7901, 292, 61,
    1188, 38, 229, 61, 197, 38, 37, 36, 177, 349, 328, 618, 125, 81, 964, 93, 709, 61, 38, 229,
    38, 69, 38, 69, 2365, 228, 61, 68, 61, 1220, 197, 125, 37, 61, 69, 61, 229, 36, 37, 285,
    328, 221, 196, 61, 68, 61, 1028, 166, 61, 69, 61, 70, 37, 38, 37, 36, 253, 328, 9949, 612,
    69, 70, 81, 253, 69, 36, 38, 420, 61, 1092, 70, 165, 125, 70, 37, 38, 37, 433, 328, 2781,
    36, 509, 682, 277, 147, 565, 445, 49, 29508, 3293, 3561, 61, 177, 381, 6276, 84381, 3108,
    81, 445, 34308, 538, 37, 196, 485, 128349, 18660, 276285, 18212, 253, 996, 61, 328, 157,
    81, 2532, 61, 328, 221, 964, 93, 165, 49, 349, 1540, 229, 177, 149, 131, 49, 53, 349, 328,
    61, 234, 61, 676, 189, 612, 22045, 1024, 1025, 746, 145, 3261, 2404, 157, 37, 36, 1766,
    253, 133, 419, 2077, 67, 49, 35, 37, 381, 70, 477, 196356],
   [285, 39620, 1373, 292, 285949, 131, 61, 227, 61, 67, 61, 9316, 509, 36, 957, 100, 93, 36,
    477, 132, 285, 12676, 73885, 3428, 189, 420, 125, 292, 253, 324, 93, 53, 69, 49, 154,
    150429, 1477, 93, 741, 317, 3733, 1949, 7893, 349, 1269, 93, 1941, 70, 101, 117, 198, 282,
    261, 85, 229, 981, 133, 1973, 701, 2133, 101, 53, 3933, 650, 413, 650, 413, 2805, 317, 810,
    4349, 832, 833, 832, 225, 61, 577, 832, 833, 32, 61, 64, 93, 32, 93, 64, 93, 128, 61, 256,
    129, 61, 33, 61, 225, 61, 353, 832, 833, 64, 61, 128, 93, 256, 61, 224, 61, 833, 64, 61,
    128, 61, 160, 61, 32, 125, 224, 61, 833, 832, 833, 832, 833, 832, 833, 832, 833, 832, 833,
    832, 897, 93, 800, 50, 801, 50, 193, 800, 50, 801, 50, 193, 800, 50, 801, 50, 193, 800, 50,
    801, 50, 193, 800, 50, 801, 50, 193, 32, 33, 93, 1608, 16405, 1765, 149, 1605, 277, 37,
    469, 37, 85, 177, 509, 165, 61, 485, 35357, 321, 36, 641, 221, 193, 6845, 229, 61, 549, 93,
    229, 61, 69, 61, 165, 189, 1987, 1085, 37, 3613, 1444, 125, 229, 227, 93, 328, 157, 36, 53,
    10269, 964, 37, 573, 1412, 133, 328, 189, 51, 14877, 868, 35, 133, 328, 23773, 228, 61,
    132, 61, 68, 61, 484, 61, 6308, 93, 298, 229, 1341, 1088, 1089, 229, 35, 157, 328, 157, 81,
    25149, 1898, 53, 106, 51, 138, 2461, 1450, 53, 490, 6237, 132, 61, 868, 61],
   [68, 61, 36, 93, 36, 61, 324, 61, 132, 61, 36, 61, 36, 221, 36, 157, 36, 61, 36, 61, 36, 61,
    100, 61, 68, 61, 36, 93, 36, 61, 36, 61, 36, 61, 36, 61, 36, 61, 68, 61, 36, 93, 132, 61,
    228, 61, 132, 61, 132, 61, 36, 61, 324, 61, 548, 189, 100, 61, 164, 61, 548, 1693, 82,
    8669, 1429, 157, 3221, 413, 501, 93, 501, 61, 501, 61, 1205, 349, 426, 5173, 1821, 949,
    445, 1429, 157, 309, 253, 85, 477, 213, 4957, 8053, 180, 23317, 157, 565, 125, 437, 125,
    3829, 157, 3061, 221, 405, 157, 53, 509, 405, 157, 1813, 285, 341, 221, 1301, 285, 981, 93,
    85, 2525, 10901, 413, 469, 93, 437, 125, 309, 253, 1493, 61, 245, 285, 469, 157, 309, 253,
    309, 253, 4725, 61, 1781, 1213, 328, 32989, 1367044, 1053, 132932, 221, 7108, 93, 184388,
    477, 239140, 99325, 17348, 48221, 158052, 189, 134148, 22776381, 58, 989, 3098, 4125, 7685,
    2081309, 2097116, 93, 2097116, 93, 29]]

/-- The runs of all rows of the table. -/
def runs : List Nat := runTable.flatten

/-- The number of the category of a code point, counted from the start of a list of runs. -/
def numberAt : List Nat → Nat → Option Nat
  | [], _ => none
  | r :: rs, n => if n < r / 32 then some (r % 32) else numberAt rs (n - r / 32)

/-- The general category of a character. -/
def of (c : Char) : Category := ((numberAt runs c.toNat).bind (all[·]?)).getD cn

/-- Whether a category is one of letters. -/
def isLetter (k : Category) : Bool := k ∈ [lu, ll, lt, lm, lo]

/-- Whether a category is one of marks, which combine with the character before them. -/
def isMark (k : Category) : Bool := k ∈ [mn, mc, me]

/-- Whether a category is one of numbers. -/
def isNumber (k : Category) : Bool := k ∈ [nd, nl, no]

end Category

/-- The ranges of characters in circles, squares and the like that count as letters although their
category is another one, and of the joiners, which belong to words. -/
def wordExtras : List (Nat × Nat) :=
  [(0x200C, 0x200D), (0x24B6, 0x24E9), (0x1F130, 0x1F149), (0x1F150, 0x1F169), (0x1F170, 0x1F189)]

/-- Whether a character can be part of a word: it is a letter, a mark, a digit, a number like a
letter or a connector. -/
def isWordChar (c : Char) : Bool :=
  let k := Category.of c
  k.isLetter || k.isMark || k = .nd || k = .nl || k = .pc ||
    wordExtras.any fun r => r.1 ≤ c.toNat && c.toNat ≤ r.2

end DocBlock
