import CloudStub.Text.Ascii
import CloudStub.Unicode.Script

/-!
# Sets of characters

The sets that a pattern can ask a character to belong to: ranges, named classes, properties of
Unicode, and combinations of these.  A set may be closed under change of letter case.

## Main Definitions

- `CharSet`: a set of characters
- `CharSet.has`: membership
- `CharSet.ofProperty?`: the set of a named property
- `CharSet.ofClassName?`: the set of a named class of ASCII
-/

namespace CloudStub.Unicode

/-- The characters that fold to a character, other than itself. -/
def unfoldCase (folded : Char) : List Char :=
  let ascii := if 'a' ≤ folded && folded ≤ 'z' then [Char.ofNat (folded.toNat - 32)] else []
  ascii ++ foldRuns.filterMap fun r =>
    let code := ((folded.toNat : Int) - r.shift).toNat
    if r.has code then some (Char.ofNat code) else none

/-- The characters that differ from a character in case alone, itself included. -/
def caseVariants (c : Char) : List Char := foldCase c :: unfoldCase (foldCase c)

end CloudStub.Unicode

namespace CloudStub

open Unicode (Category)

/-- A set of characters. -/
inductive CharSet where
  /-- No character. -/
  | none
  /-- Every character. -/
  | any
  /-- The characters between two code points, both included. -/
  | range (first last : Nat)
  /-- The characters in some ranges. -/
  | ranges (rs : List (Nat × Nat))
  /-- The characters of some general categories. -/
  | categories (cs : List Category)
  /-- Alphabetic characters. -/
  | alphabetic
  /-- Lowercase characters. -/
  | lowercase
  /-- Uppercase characters. -/
  | uppercase
  /-- Decimal digits. -/
  | digit
  /-- White space. -/
  | blank
  /-- Characters of words. -/
  | word
  /-- The characters outside a set. -/
  | not (s : CharSet)
  /-- The characters of either set. -/
  | or (a b : CharSet)
  /-- The characters of both sets. -/
  | and (a b : CharSet)
  /-- The set with every case variant of its characters. -/
  | folded (s : CharSet)
  /-- The set with every variant in ASCII case of its characters. -/
  | asciiFolded (s : CharSet)
  deriving DecidableEq, Repr

namespace CharSet

/-- Whether a character belongs to a set. -/
def has : CharSet → Char → Bool
  | .none, _ => false
  | .any, _ => true
  | .range first last, c => first ≤ c.toNat && c.toNat ≤ last
  | .ranges rs, c => Unicode.inRanges rs c.toNat
  | .categories cs, c => cs.contains (Category.ofChar c)
  | .alphabetic, c => Unicode.isAlphabetic c
  | .lowercase, c => Unicode.isLowercase c
  | .uppercase, c => Unicode.isUppercase c
  | .digit, c => Unicode.isDecimal c
  | .blank, c => Unicode.isBlank c
  | .word, c => Unicode.isWord c
  | .not s, c => !s.has c
  | .or a b, c => a.has c || b.has c
  | .and a b, c => a.has c && b.has c
  | .folded s, c => (Unicode.caseVariants c).any s.has
  | .asciiFolded s, c => s.has c || s.has (Ascii.lower c) || s.has (Ascii.upper c)

/-- One character. -/
def single (c : Char) : CharSet := .range c.toNat c.toNat

/-- The characters of one set outside another. -/
def diff (a b : CharSet) : CharSet := .and a (.not b)

/-- The characters of exactly one of two sets. -/
def xor (a b : CharSet) : CharSet := .or (diff a b) (diff b a)

/-- The set or its complement. -/
def negateIf (negated : Bool) (s : CharSet) : CharSet := if negated then .not s else s

/-- The digits of ASCII. -/
def asciiDigit : CharSet := .range 48 57

/-- The capital letters of ASCII. -/
def asciiUpper : CharSet := .range 65 90

/-- The small letters of ASCII. -/
def asciiLower : CharSet := .range 97 122

/-- The letters of ASCII. -/
def asciiAlpha : CharSet := .or asciiUpper asciiLower

/-- The blanks of ASCII. -/
def asciiBlank : CharSet := .ranges [(9, 13), (32, 32)]

/-- The characters of words in ASCII. -/
def asciiWord : CharSet := .or (.or asciiAlpha asciiDigit) (.range 95 95)

/-- The set of a named class of ASCII. -/
def ofClassName? : String → Option CharSet
  | "alnum" => some (.or asciiAlpha asciiDigit)
  | "alpha" => some asciiAlpha
  | "ascii" => some (.range 0 127)
  | "blank" => some (.ranges [(9, 9), (32, 32)])
  | "cntrl" => some (.ranges [(0, 31), (127, 127)])
  | "digit" => some asciiDigit
  | "graph" => some (.range 33 126)
  | "lower" => some asciiLower
  | "print" => some (.range 32 126)
  | "punct" => some (.ranges [(33, 47), (58, 64), (91, 96), (123, 126)])
  | "space" => some asciiBlank
  | "upper" => some asciiUpper
  | "word" => some asciiWord
  | "xdigit" => some (.ranges [(48, 57), (65, 70), (97, 102)])
  | _ => Option.none

/-- The general categories by name, in lower case without separators. -/
def categoryNames : List (List String × List Category) :=
  [(["lu", "uppercaseletter"], [.lu]), (["ll", "lowercaseletter"], [.ll]),
   (["lt", "titlecaseletter"], [.lt]), (["lm", "modifierletter"], [.lm]),
   (["lo", "otherletter"], [.lo]), (["lc", "casedletter"], [.lu, .ll, .lt]),
   (["l", "letter"], [.lu, .ll, .lt, .lm, .lo]), (["mn", "nonspacingmark"], [.mn]),
   (["mc", "spacingmark"], [.mc]), (["me", "enclosingmark"], [.me]),
   (["m", "mark", "combiningmark"], [.mn, .mc, .me]),
   (["nd", "decimalnumber", "digit"], [.nd]), (["nl", "letternumber"], [.nl]),
   (["no", "othernumber"], [.no]), (["n", "number"], [.nd, .nl, .no]),
   (["pc", "connectorpunctuation"], [.pc]), (["pd", "dashpunctuation"], [.pd]),
   (["ps", "openpunctuation"], [.ps]), (["pe", "closepunctuation"], [.pe]),
   (["pi", "initialpunctuation"], [.pi]), (["pf", "finalpunctuation"], [.pf]),
   (["po", "otherpunctuation"], [.po]),
   (["p", "punctuation", "punct"], [.pc, .pd, .ps, .pe, .pi, .pf, .po]),
   (["sm", "mathsymbol"], [.sm]), (["sc", "currencysymbol"], [.sc]),
   (["sk", "modifiersymbol"], [.sk]), (["so", "othersymbol"], [.so]),
   (["s", "symbol"], [.sm, .sc, .sk, .so]), (["zs", "spaceseparator"], [.zs]),
   (["zl", "lineseparator"], [.zl]), (["zp", "paragraphseparator"], [.zp]),
   (["z", "separator"], [.zs, .zl, .zp]), (["cc", "control", "cntrl"], [.cc]),
   (["cf", "format"], [.cf]), (["co", "privateuse"], [.co]), (["cn", "unassigned"], [.cn]),
   (["c", "other"], [.cc, .cf, .co, .cn])]

/-- The set of a general category or of one of the three sets that count among them. -/
def ofCategoryName? (name : String) : Option CharSet :=
  match name with
  | "any" => some .any
  | "ascii" => some (.range 0 127)
  | "assigned" => some (.not (.categories [.cn]))
  | _ => (categoryNames.find? fun p => p.1.contains name).map fun p => .categories p.2

/-- The set of a script. -/
def ofScriptName? (name : String) : Option CharSet :=
  (Unicode.Script.ofName? name).map fun s => .ranges s.ranges

/-- The set of a property that characters have or lack. -/
def ofFlagName? (name : String) : Option CharSet :=
  match name with
  | "alphabetic" | "alpha" => some .alphabetic
  | "lowercase" | "lower" => some .lowercase
  | "uppercase" | "upper" => some .uppercase
  | "whitespace" | "wspace" | "space" => some .blank
  | _ => Option.none

/-- A name in lower case, without separators and without a leading `is`. -/
def normalizeName (name : List Char) : String :=
  let lower := name.map Ascii.lower
  let bare :=
    match lower with
    | 'i' :: 's' :: rest => rest
    | cs => cs
  let kept := bare.filter fun c => c != ' ' && c != '_' && c != '-' && c.toNat < 128
  if kept == ['c'] && bare.length < lower.length then "isc" else String.ofList kept

/-- The set of a property given by its name alone. -/
def ofProperty? (name : List Char) : Option CharSet :=
  let name := normalizeName name
  ofFlagName? name <|> ofCategoryName? name <|> ofScriptName? name

/-- The set of a property given with its kind. -/
def ofPropertyValue? (kind value : List Char) : Option CharSet :=
  let value := normalizeName value
  match normalizeName kind with
  | "gc" | "generalcategory" => ofCategoryName? value
  | "sc" | "script" => ofScriptName? value
  | _ => Option.none

/-- Whether a set holds no code point between 128 and 255. -/
def isAscii (s : CharSet) : Bool :=
  (List.range 128).all fun n => !s.has (Char.ofNat (n + 128))

end CharSet

end CloudStub
