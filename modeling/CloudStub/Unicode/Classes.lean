import CloudStub.Unicode.Category

/-!
# Character classes

The classes of characters that the formats of this library ask about, each for all of Unicode:
letters, numbers, blanks, characters that can be shown as they are, characters of words, and the
folding of letter case.  A class that differs from a union of general categories lists the
difference as ranges.

## Main Definitions

- `isAlphabetic`, `isNumeric`, `isAlphanumeric`: letters and numbers
- `isBlank`: white space
- `isPrintable`: characters that quoted text shows as they are
- `isWord`: characters of words
- `foldCase`: the simple case folding of a character

## Design Notes

Characters below 128 are decided without the tables, so that closed examples over ASCII text
evaluate quickly.
-/

namespace CloudStub.Unicode

/-- Whether a number lies in one of the closed ranges. -/
def inRanges (ranges : List (Nat × Nat)) (n : Nat) : Bool :=
  ranges.any fun r => r.1 ≤ n && n ≤ r.2

/-- The letters of ASCII. -/
def isAsciiLetter (c : Char) : Bool :=
  ('a' ≤ c && c ≤ 'z') || ('A' ≤ c && c ≤ 'Z')

/-- The digits of ASCII. -/
def isAsciiDigit (c : Char) : Bool := '0' ≤ c && c ≤ '9'

/-- The alphabetic code points that are neither letters nor letter numbers. -/
def otherAlphabetic : List (Nat × Nat) :=
  [(837, 837), (1456, 1469), (1471, 1471), (1473, 1474), (1476, 1477), (1479, 1479),
   (1552, 1562), (1611, 1623), (1625, 1631), (1648, 1648), (1750, 1756), (1761, 1764),
   (1767, 1768), (1773, 1773), (1809, 1809), (1840, 1855), (1958, 1968), (2070, 2071),
   (2075, 2083), (2085, 2087), (2089, 2092), (2260, 2271), (2275, 2281), (2288, 2307),
   (2362, 2363), (2366, 2380), (2382, 2383), (2389, 2391), (2402, 2403), (2433, 2435),
   (2494, 2500), (2503, 2504), (2507, 2508), (2519, 2519), (2530, 2531), (2561, 2563),
   (2622, 2626), (2631, 2632), (2635, 2636), (2641, 2641), (2672, 2673), (2677, 2677),
   (2689, 2691), (2750, 2757), (2759, 2761), (2763, 2764), (2786, 2787), (2810, 2812),
   (2817, 2819), (2878, 2884), (2887, 2888), (2891, 2892), (2902, 2903), (2914, 2915),
   (2946, 2946), (3006, 3010), (3014, 3016), (3018, 3020), (3031, 3031), (3072, 3076),
   (3134, 3140), (3142, 3144), (3146, 3148), (3157, 3158), (3170, 3171), (3201, 3203),
   (3262, 3268), (3270, 3272), (3274, 3276), (3285, 3286), (3298, 3299), (3315, 3315),
   (3328, 3331), (3390, 3396), (3398, 3400), (3402, 3404), (3415, 3415), (3426, 3427),
   (3457, 3459), (3535, 3540), (3542, 3542), (3544, 3551), (3570, 3571), (3633, 3633),
   (3636, 3642), (3661, 3661), (3761, 3761), (3764, 3769), (3771, 3772), (3789, 3789),
   (3953, 3971), (3981, 3991), (3993, 4028), (4139, 4150), (4152, 4152), (4155, 4158),
   (4182, 4185), (4190, 4192), (4194, 4196), (4199, 4205), (4209, 4212), (4226, 4237),
   (4239, 4239), (4250, 4253), (5906, 5907), (5938, 5939), (5970, 5971), (6002, 6003),
   (6070, 6088), (6277, 6278), (6313, 6313), (6432, 6443), (6448, 6456), (6679, 6683),
   (6741, 6750), (6753, 6772), (6847, 6848), (6860, 6862), (6912, 6916), (6965, 6979),
   (7040, 7042), (7073, 7081), (7084, 7085), (7143, 7153), (7204, 7222), (7655, 7668),
   (9398, 9449), (11744, 11775), (42612, 42619), (42654, 42655), (43010, 43010), (43019, 43019),
   (43043, 43047), (43136, 43137), (43188, 43203), (43205, 43205), (43263, 43263),
   (43302, 43306), (43335, 43346), (43392, 43395), (43444, 43455), (43493, 43493),
   (43561, 43574), (43587, 43587), (43596, 43597), (43643, 43645), (43696, 43696),
   (43698, 43700), (43703, 43704), (43710, 43710), (43755, 43759), (43765, 43765),
   (44003, 44010), (64286, 64286), (66422, 66426), (68097, 68099), (68101, 68102),
   (68108, 68111), (68900, 68903), (69291, 69292), (69632, 69634), (69688, 69701),
   (69747, 69748), (69760, 69762), (69808, 69816), (69826, 69826), (69888, 69890),
   (69927, 69938), (69957, 69958), (70016, 70018), (70067, 70079), (70094, 70095),
   (70188, 70196), (70199, 70199), (70206, 70206), (70209, 70209), (70367, 70376),
   (70400, 70403), (70462, 70468), (70471, 70472), (70475, 70476), (70487, 70487),
   (70498, 70499), (70709, 70721), (70723, 70725), (70832, 70849), (71087, 71093),
   (71096, 71102), (71132, 71133), (71216, 71230), (71232, 71232), (71339, 71349),
   (71453, 71466), (71724, 71736), (71984, 71989), (71991, 71992), (71995, 71996),
   (72000, 72000), (72002, 72002), (72145, 72151), (72154, 72159), (72164, 72164),
   (72193, 72202), (72245, 72249), (72251, 72254), (72273, 72283), (72330, 72343),
   (72751, 72758), (72760, 72766), (72850, 72871), (72873, 72886), (73009, 73014),
   (73018, 73018), (73020, 73021), (73023, 73025), (73027, 73027), (73031, 73031),
   (73098, 73102), (73104, 73105), (73107, 73110), (73459, 73462), (73472, 73473),
   (73475, 73475), (73524, 73530), (73534, 73536), (94031, 94031), (94033, 94087),
   (94095, 94098), (94192, 94193), (113822, 113822), (122880, 122886), (122888, 122904),
   (122907, 122913), (122915, 122916), (122918, 122922), (123023, 123023), (125255, 125255),
   (127280, 127305), (127312, 127337), (127344, 127369)]

/-- The code points that extend a grapheme although they are neither nonspacing nor enclosing
marks. -/
def otherGraphemeExtend : List (Nat × Nat) :=
  [(2494, 2494), (2519, 2519), (2878, 2878), (2903, 2903), (3006, 3006), (3031, 3031),
   (3266, 3266), (3285, 3286), (3390, 3390), (3415, 3415), (3535, 3535), (3551, 3551),
   (6965, 6965), (8204, 8204), (12334, 12335), (65438, 65439), (70462, 70462), (70487, 70487),
   (70832, 70832), (70845, 70845), (71087, 71087), (71984, 71984), (119141, 119141),
   (119150, 119154), (917536, 917631)]

/-- The lowercase code points outside the category of lowercase letters. -/
def otherLowercase : List (Nat × Nat) :=
  [(170, 170), (186, 186), (688, 696), (704, 705), (736, 740), (837, 837), (890, 890),
   (4348, 4348), (7468, 7530), (7544, 7544), (7579, 7615), (8305, 8305), (8319, 8319),
   (8336, 8348), (8560, 8575), (9424, 9449), (11388, 11389), (42652, 42653), (42864, 42864),
   (42994, 42996), (43000, 43001), (43868, 43871), (43881, 43881), (67456, 67456),
   (67459, 67461), (67463, 67504), (67506, 67514), (122928, 122989)]

/-- The uppercase code points outside the category of uppercase letters. -/
def otherUppercase : List (Nat × Nat) :=
  [(8544, 8559), (9398, 9423), (127280, 127305), (127312, 127337), (127344, 127369)]

/-- White space outside ASCII. -/
def otherBlank : List (Nat × Nat) :=
  [(133, 133), (160, 160), (5760, 5760), (8192, 8202), (8232, 8233), (8239, 8239), (8287, 8287),
   (12288, 12288)]

/-- The alphabetic characters. -/
def isAlphabetic (c : Char) : Bool :=
  if c.toNat < 128 then isAsciiLetter c
  else
    match Category.ofChar c with
    | .lu | .ll | .lt | .lm | .lo | .nl => true
    | _ => inRanges otherAlphabetic c.toNat

/-- The characters with a numeric category. -/
def isNumeric (c : Char) : Bool :=
  if c.toNat < 128 then isAsciiDigit c
  else
    match Category.ofChar c with
    | .nd | .nl | .no => true
    | _ => false

/-- Letters and numbers. -/
def isAlphanumeric (c : Char) : Bool := isAlphabetic c || isNumeric c

/-- The lowercase characters. -/
def isLowercase (c : Char) : Bool :=
  if c.toNat < 128 then 'a' ≤ c && c ≤ 'z'
  else Category.ofChar c == .ll || inRanges otherLowercase c.toNat

/-- The uppercase characters. -/
def isUppercase (c : Char) : Bool :=
  if c.toNat < 128 then 'A' ≤ c && c ≤ 'Z'
  else Category.ofChar c == .lu || inRanges otherUppercase c.toNat

/-- White space. -/
def isBlank (c : Char) : Bool :=
  c == ' ' || ('\t' ≤ c && c ≤ '\r') || inRanges otherBlank c.toNat

/-- The decimal digits of all scripts. -/
def isDecimal (c : Char) : Bool :=
  if c.toNat < 128 then isAsciiDigit c else Category.ofChar c == .nd

/-- The characters that combine with the character before them. -/
def isGraphemeExtend (c : Char) : Bool :=
  if c.toNat < 128 then false
  else
    match Category.ofChar c with
    | .mn | .me => true
    | _ => inRanges otherGraphemeExtend c.toNat

/-- The characters that quoted text shows as they are: the plain space, and whatever is neither a
control, a format, a separator, a private use nor an unassigned code point, nor combines with the
character before it. -/
def isPrintable (c : Char) : Bool :=
  if c.toNat < 128 then ' ' ≤ c && c ≤ '~'
  else
    match Category.ofChar c with
    | .cc | .cf | .cs | .co | .cn | .zs | .zl | .zp => false
    | _ => !isGraphemeExtend c

/-- The characters of words: alphabetic characters, marks, decimal digits, connector punctuation
and the two join controls. -/
def isWord (c : Char) : Bool :=
  if c.toNat < 128 then isAsciiLetter c || isAsciiDigit c || c == '_'
  else
    match Category.ofChar c with
    | .mn | .mc | .me | .nd | .pc => true
    | _ => isAlphabetic c || c.toNat == 0x200C || c.toNat == 0x200D

/-- A run of characters whose folded forms lie at one distance: first and last code point, the
step between members, and the distance to the folded form. -/
structure FoldRun where
  /-- The first code point. -/
  first : Nat
  /-- The last code point. -/
  last : Nat
  /-- The step between members of the run. -/
  step : Nat
  /-- The distance from a member to its folded form. -/
  shift : Int

/-- Whether a code point is a member of the run. -/
def FoldRun.has (r : FoldRun) (n : Nat) : Bool :=
  r.first ≤ n && n ≤ r.last && (n - r.first) % r.step == 0

/-- The simple case foldings outside ASCII. -/
def foldRuns : List FoldRun :=
  [⟨181, 181, 1, 775⟩, ⟨192, 214, 1, 32⟩, ⟨216, 222, 1, 32⟩, ⟨256, 302, 2, 1⟩, ⟨306, 310, 2, 1⟩,
   ⟨313, 327, 2, 1⟩, ⟨330, 374, 2, 1⟩, ⟨376, 376, 1, -121⟩, ⟨377, 381, 2, 1⟩,
   ⟨383, 383, 1, -268⟩, ⟨385, 385, 1, 210⟩, ⟨386, 388, 2, 1⟩, ⟨390, 390, 1, 206⟩,
   ⟨391, 391, 1, 1⟩, ⟨393, 394, 1, 205⟩, ⟨395, 395, 1, 1⟩, ⟨398, 398, 1, 79⟩, ⟨399, 399, 1, 202⟩,
   ⟨400, 400, 1, 203⟩, ⟨401, 401, 1, 1⟩, ⟨403, 403, 1, 205⟩, ⟨404, 404, 1, 207⟩,
   ⟨406, 406, 1, 211⟩, ⟨407, 407, 1, 209⟩, ⟨408, 408, 1, 1⟩, ⟨412, 412, 1, 211⟩,
   ⟨413, 413, 1, 213⟩, ⟨415, 415, 1, 214⟩, ⟨416, 420, 2, 1⟩, ⟨422, 422, 1, 218⟩,
   ⟨423, 423, 1, 1⟩, ⟨425, 425, 1, 218⟩, ⟨428, 428, 1, 1⟩, ⟨430, 430, 1, 218⟩, ⟨431, 431, 1, 1⟩,
   ⟨433, 434, 1, 217⟩, ⟨435, 437, 2, 1⟩, ⟨439, 439, 1, 219⟩, ⟨440, 440, 1, 1⟩, ⟨444, 444, 1, 1⟩,
   ⟨452, 452, 1, 2⟩, ⟨453, 453, 1, 1⟩, ⟨455, 455, 1, 2⟩, ⟨456, 456, 1, 1⟩, ⟨458, 458, 1, 2⟩,
   ⟨459, 475, 2, 1⟩, ⟨478, 494, 2, 1⟩, ⟨497, 497, 1, 2⟩, ⟨498, 500, 2, 1⟩, ⟨502, 502, 1, -97⟩,
   ⟨503, 503, 1, -56⟩, ⟨504, 542, 2, 1⟩, ⟨544, 544, 1, -130⟩, ⟨546, 562, 2, 1⟩,
   ⟨570, 570, 1, 10795⟩, ⟨571, 571, 1, 1⟩, ⟨573, 573, 1, -163⟩, ⟨574, 574, 1, 10792⟩,
   ⟨577, 577, 1, 1⟩, ⟨579, 579, 1, -195⟩, ⟨580, 580, 1, 69⟩, ⟨581, 581, 1, 71⟩, ⟨582, 590, 2, 1⟩,
   ⟨837, 837, 1, 116⟩, ⟨880, 882, 2, 1⟩, ⟨886, 886, 1, 1⟩, ⟨895, 895, 1, 116⟩, ⟨902, 902, 1, 38⟩,
   ⟨904, 906, 1, 37⟩, ⟨908, 908, 1, 64⟩, ⟨910, 911, 1, 63⟩, ⟨913, 929, 1, 32⟩, ⟨931, 939, 1, 32⟩,
   ⟨962, 962, 1, 1⟩, ⟨975, 975, 1, 8⟩, ⟨976, 976, 1, -30⟩, ⟨977, 977, 1, -25⟩,
   ⟨981, 981, 1, -15⟩, ⟨982, 982, 1, -22⟩, ⟨984, 1006, 2, 1⟩, ⟨1008, 1008, 1, -54⟩,
   ⟨1009, 1009, 1, -48⟩, ⟨1012, 1012, 1, -60⟩, ⟨1013, 1013, 1, -64⟩, ⟨1015, 1015, 1, 1⟩,
   ⟨1017, 1017, 1, -7⟩, ⟨1018, 1018, 1, 1⟩, ⟨1021, 1023, 1, -130⟩, ⟨1024, 1039, 1, 80⟩,
   ⟨1040, 1071, 1, 32⟩, ⟨1120, 1152, 2, 1⟩, ⟨1162, 1214, 2, 1⟩, ⟨1216, 1216, 1, 15⟩,
   ⟨1217, 1229, 2, 1⟩, ⟨1232, 1326, 2, 1⟩, ⟨1329, 1366, 1, 48⟩, ⟨4256, 4293, 1, 7264⟩,
   ⟨4295, 4295, 1, 7264⟩, ⟨4301, 4301, 1, 7264⟩, ⟨5112, 5117, 1, -8⟩, ⟨7296, 7296, 1, -6222⟩,
   ⟨7297, 7297, 1, -6221⟩, ⟨7298, 7298, 1, -6212⟩, ⟨7299, 7300, 1, -6210⟩,
   ⟨7301, 7301, 1, -6211⟩, ⟨7302, 7302, 1, -6204⟩, ⟨7303, 7303, 1, -6180⟩,
   ⟨7304, 7304, 1, 35267⟩, ⟨7312, 7354, 1, -3008⟩, ⟨7357, 7359, 1, -3008⟩, ⟨7680, 7828, 2, 1⟩,
   ⟨7835, 7835, 1, -58⟩, ⟨7838, 7838, 1, -7615⟩, ⟨7840, 7934, 2, 1⟩, ⟨7944, 7951, 1, -8⟩,
   ⟨7960, 7965, 1, -8⟩, ⟨7976, 7983, 1, -8⟩, ⟨7992, 7999, 1, -8⟩, ⟨8008, 8013, 1, -8⟩,
   ⟨8025, 8031, 2, -8⟩, ⟨8040, 8047, 1, -8⟩, ⟨8072, 8079, 1, -8⟩, ⟨8088, 8095, 1, -8⟩,
   ⟨8104, 8111, 1, -8⟩, ⟨8120, 8121, 1, -8⟩, ⟨8122, 8123, 1, -74⟩, ⟨8124, 8124, 1, -9⟩,
   ⟨8126, 8126, 1, -7173⟩, ⟨8136, 8139, 1, -86⟩, ⟨8140, 8140, 1, -9⟩, ⟨8152, 8153, 1, -8⟩,
   ⟨8154, 8155, 1, -100⟩, ⟨8168, 8169, 1, -8⟩, ⟨8170, 8171, 1, -112⟩, ⟨8172, 8172, 1, -7⟩,
   ⟨8184, 8185, 1, -128⟩, ⟨8186, 8187, 1, -126⟩, ⟨8188, 8188, 1, -9⟩, ⟨8486, 8486, 1, -7517⟩,
   ⟨8490, 8490, 1, -8383⟩, ⟨8491, 8491, 1, -8262⟩, ⟨8498, 8498, 1, 28⟩, ⟨8544, 8559, 1, 16⟩,
   ⟨8579, 8579, 1, 1⟩, ⟨9398, 9423, 1, 26⟩, ⟨11264, 11311, 1, 48⟩, ⟨11360, 11360, 1, 1⟩,
   ⟨11362, 11362, 1, -10743⟩, ⟨11363, 11363, 1, -3814⟩, ⟨11364, 11364, 1, -10727⟩,
   ⟨11367, 11371, 2, 1⟩, ⟨11373, 11373, 1, -10780⟩, ⟨11374, 11374, 1, -10749⟩,
   ⟨11375, 11375, 1, -10783⟩, ⟨11376, 11376, 1, -10782⟩, ⟨11378, 11378, 1, 1⟩,
   ⟨11381, 11381, 1, 1⟩, ⟨11390, 11391, 1, -10815⟩, ⟨11392, 11490, 2, 1⟩, ⟨11499, 11501, 2, 1⟩,
   ⟨11506, 11506, 1, 1⟩, ⟨42560, 42604, 2, 1⟩, ⟨42624, 42650, 2, 1⟩, ⟨42786, 42798, 2, 1⟩,
   ⟨42802, 42862, 2, 1⟩, ⟨42873, 42875, 2, 1⟩, ⟨42877, 42877, 1, -35332⟩, ⟨42878, 42886, 2, 1⟩,
   ⟨42891, 42891, 1, 1⟩, ⟨42893, 42893, 1, -42280⟩, ⟨42896, 42898, 2, 1⟩, ⟨42902, 42920, 2, 1⟩,
   ⟨42922, 42922, 1, -42308⟩, ⟨42923, 42923, 1, -42319⟩, ⟨42924, 42924, 1, -42315⟩,
   ⟨42925, 42925, 1, -42305⟩, ⟨42926, 42926, 1, -42308⟩, ⟨42928, 42928, 1, -42258⟩,
   ⟨42929, 42929, 1, -42282⟩, ⟨42930, 42930, 1, -42261⟩, ⟨42931, 42931, 1, 928⟩,
   ⟨42932, 42946, 2, 1⟩, ⟨42948, 42948, 1, -48⟩, ⟨42949, 42949, 1, -42307⟩,
   ⟨42950, 42950, 1, -35384⟩, ⟨42951, 42953, 2, 1⟩, ⟨42960, 42960, 1, 1⟩, ⟨42966, 42968, 2, 1⟩,
   ⟨42997, 42997, 1, 1⟩, ⟨43888, 43967, 1, -38864⟩, ⟨65313, 65338, 1, 32⟩, ⟨66560, 66599, 1, 40⟩,
   ⟨66736, 66771, 1, 40⟩, ⟨66928, 66938, 1, 39⟩, ⟨66940, 66954, 1, 39⟩, ⟨66956, 66962, 1, 39⟩,
   ⟨66964, 66965, 1, 39⟩, ⟨68736, 68786, 1, 64⟩, ⟨71840, 71871, 1, 32⟩, ⟨93760, 93791, 1, 32⟩,
   ⟨125184, 125217, 1, 34⟩]

/-- The simple case folding of a character: letters that differ in case alone fold to one
character. -/
def foldCase (c : Char) : Char :=
  if c.toNat < 128 then
    if 'A' ≤ c && c ≤ 'Z' then Char.ofNat (c.toNat + 32) else c
  else
    match foldRuns.find? fun r => r.has c.toNat with
    | some r => Char.ofNat (c.toNat + r.shift).toNat
    | none => c

end CloudStub.Unicode
