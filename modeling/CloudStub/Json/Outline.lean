import CloudStub.Json.Value
import CloudStub.Text.Ascii
import CloudStub.Text.Utf8

/-!
# Reading JSON

A JSON text is read from left to right into an outline: the value as far as it could be read, with
members in the order of the text and repeated keys kept.  A complete outline stands for a value.
An outline that stops early still shows everything in front of the fault, so that a reader of
typed documents can report a misplaced value that stands before a malformed one.

## Main Definitions

- `Outline`: a value as far as it could be read
- `Outline.read`: reads one value
- `Json.parse?`: the value of a complete text
- `Json.parseBytes?`: the same for bytes, which must be UTF-8

## Design Notes

Arrays and objects may be nested 127 levels deep.  The reader recurses on the number of levels
that are left; the items of one array and the members of one object are read by a loop whose
length is bounded by the text.
-/

namespace CloudStub

/-- A value as far as it could be read. -/
inductive Outline where
  /-- The null value. -/
  | null
  /-- A truth value. -/
  | bool (b : Bool)
  /-- A number. -/
  | num (n : Json.Number)
  /-- A text. -/
  | str (s : String)
  /-- The items read, and whether the closing bracket was reached. -/
  | arr (items : List Outline) (closed : Bool)
  /-- The members read, and whether the closing brace was reached. -/
  | obj (members : List (String × Outline)) (closed : Bool)
  /-- No value could be read. -/
  | broken
  deriving Inhabited

namespace Outline

mutual

/-- The value that a complete outline stands for. -/
def toJson : Outline → Json
  | .null => .null
  | .bool b => .bool b
  | .num n => .num n
  | .str s => .str s
  | .arr items _ => .arr (itemsToJson items)
  | .obj members _ => .ofMembers (membersToJson members)
  | .broken => .null

/-- The values of the items. -/
def itemsToJson : List Outline → List Json
  | [] => []
  | o :: rest => toJson o :: itemsToJson rest

/-- The values of the members. -/
def membersToJson : List (String × Outline) → List (String × Json)
  | [] => []
  | (k, o) :: rest => (k, toJson o) :: membersToJson rest

end

/-- Whether an outline is complete.  Reading stops at the first fault, so a closed array or object
is complete throughout. -/
def isWhole : Outline → Bool
  | .arr _ closed => closed
  | .obj _ closed => closed
  | .broken => false
  | _ => true

/-- The blanks that may stand between tokens. -/
def isBlank (c : Char) : Bool := c == ' ' || c == '\n' || c == '\t' || c == '\r'

/-- Drops the blanks at the front. -/
def dropBlank (cs : List Char) : List Char := cs.dropWhile isBlank

/-- Where the reader of a string stands. -/
inductive StringState where
  /-- Between characters. -/
  | plain
  /-- Behind a backslash. -/
  | escape
  /-- Inside a numeric escape: the half read before it, digits due, value so far. -/
  | number (high : Option Nat) (due value : Nat)
  /-- Behind the first half of a pair of numeric escapes. -/
  | half (high : Nat)
  /-- Behind such a half and a backslash. -/
  | halfEscape (high : Nat)
  deriving DecidableEq, Repr

/-- What a character does to the reader of a string. -/
inductive StringStep where
  /-- It yields these characters and a new state. -/
  | next (out : List Char) (state : StringState)
  /-- It ends the string. -/
  | done
  /-- It is malformed. -/
  | bad
  deriving DecidableEq, Repr

/-- The character that a single-letter escape stands for. -/
def simpleEscape? (c : Char) : Option Char :=
  match c with
  | '"' => some '"'
  | '\\' => some '\\'
  | '/' => some '/'
  | 'b' => some '\x08'
  | 'f' => some '\x0c'
  | 'n' => some '\n'
  | 'r' => some '\r'
  | 't' => some '\t'
  | _ => none

/-- The step behind the last digit of a numeric escape.  Numbers of the surrogate range come in
pairs of a first and a second half. -/
def closeNumber (high : Option Nat) (value : Nat) : StringStep :=
  match high with
  | none =>
    if 0xD800 ≤ value && value < 0xDC00 then .next [] (.half value)
    else if 0xDC00 ≤ value && value < 0xE000 then .bad
    else .next [Char.ofNat value] .plain
  | some high =>
    if 0xDC00 ≤ value && value < 0xE000 then
      .next [Char.ofNat (0x10000 + (high - 0xD800) * 0x400 + (value - 0xDC00))] .plain
    else .bad

/-- The step over one character of a string. -/
def StringState.step : StringState → Char → StringStep
  | .plain, c =>
    if c == '"' then .done
    else if c == '\\' then .next [] .escape
    else if c.toNat < 32 then .bad
    else .next [c] .plain
  | .escape, c =>
    if c == 'u' then .next [] (.number none 4 0)
    else
      match simpleEscape? c with
      | some d => .next [d] .plain
      | none => .bad
  | .number high due value, c =>
    match Ascii.hexDigit? c with
    | none => .bad
    | some d => if due ≤ 1 then closeNumber high (value * 16 + d)
      else .next [] (.number high (due - 1) (value * 16 + d))
  | .half high, c => if c == '\\' then .next [] (.halfEscape high) else .bad
  | .halfEscape high, c => if c == 'u' then .next [] (.number (some high) 4 0) else .bad

/-- Reads a string behind its opening quote: its characters and what follows it. -/
def readString : StringState → List Char → Option (List Char × List Char)
  | _, [] => none
  | s, c :: rest =>
    match s.step c with
    | .next out s => (readString s rest).map fun r => (out ++ r.1, r.2)
    | .done => some ([], rest)
    | .bad => none

/-- The numbers below which significands stay. -/
def significandBound : Nat := Nat.pow 2 64

/-- Appends digits to a significand as long as it stays below the bound; the digits that are left
over follow. -/
def appendDigits (n : Nat) : List Char → Nat × List Char
  | [] => (n, [])
  | d :: rest =>
    let next := n * 10 + (d.toNat - 48)
    if next < significandBound then appendDigits next rest else (n, d :: rest)

/-- The number of an integer literal below the bound: an integer when it fits, else the nearest
floating-point number.  The negative zero is a floating-point number. -/
def integer? (negative : Bool) (n : Nat) : Option Json.Number :=
  if !negative then some (.int n)
  else if 0 < n && n ≤ Nat.pow 2 63 then some (.int (-n))
  else (Decimal.scaled? true n 0).map .float

/-- The digits at the front, at least one of them. -/
def readDigits (cs : List Char) : Option (List Char × List Char) :=
  let ds := cs.takeWhile Char.isDigit
  if ds.isEmpty then none else some (ds, cs.dropWhile Char.isDigit)

/-- The fraction at the front, if one begins there: `none` when it has no digits. -/
def readFraction : List Char → Option (Option (List Char) × List Char)
  | '.' :: rest => (readDigits rest).map fun r => (some r.1, r.2)
  | cs => some (none, cs)

/-- The exponent at the front, if one begins there: `none` when it has no digits. -/
def readExponent : List Char → Option (Option Int × List Char)
  | c :: rest =>
    if c == 'e' || c == 'E' then
      let (negative, rest) :=
        match rest with
        | '-' :: rest => (true, rest)
        | '+' :: rest => (false, rest)
        | rest => (false, rest)
      (readDigits rest).map fun r =>
        let n : Int := Ascii.decimalValue r.1
        (some (if negative then -n else n), r.2)
    else some (none, c :: rest)
  | [] => some (none, [])

/-- Reads a number behind its sign.  Only the digits that fit the significand count, the others
shift it when they stand before the point and are dropped behind it. -/
def readNumber (negative : Bool) (cs : List Char) : Option (Json.Number × List Char) := do
  let (whole, rest) ← readDigits cs
  if whole.head? == some '0' && whole.length > 1 then none
  else
    let (fraction, rest) ← readFraction rest
    let (exponent, rest) ← readExponent rest
    let (significand, beyond) := appendDigits 0 whole
    match fraction, exponent, beyond with
    | none, none, [] =>
      let n ← integer? negative significand
      some (n, rest)
    | _, _, _ =>
      let fraction := fraction.getD []
      let (significand, dropped) := appendDigits significand fraction
      let places : Int := (fraction.length : Int) - dropped.length
      let x ← Decimal.scaled? negative significand (exponent.getD 0 + beyond.length - places)
      some (.float x, rest)

/-- The rest behind a word at the front. -/
def dropWord : List Char → List Char → Option (List Char)
  | [], cs => some cs
  | w :: word, c :: cs => if w == c then dropWord word cs else none
  | _ :: _, [] => none

/-- An outline together with the rest of the text, unless reading stopped. -/
abbrev Reading := Outline × Option (List Char)

/-- The reading of a word that stands for a value. -/
def readWord (word : String) (value : Outline) (cs : List Char) : Reading :=
  match dropWord word.toList cs with
  | some rest => (value, some rest)
  | none => (.broken, none)

/-- Reads a value that is neither an array nor an object. -/
def readScalar : List Char → Reading
  | '"' :: rest =>
    match readString .plain rest with
    | some (cs, rest) => (.str (String.ofList cs), some rest)
    | none => (.broken, none)
  | '-' :: rest =>
    match readNumber true rest with
    | some (n, rest) => (.num n, some rest)
    | none => (.broken, none)
  | c :: rest =>
    if c == 'n' then readWord "null" .null (c :: rest)
    else if c == 't' then readWord "true" (.bool true) (c :: rest)
    else if c == 'f' then readWord "false" (.bool false) (c :: rest)
    else
      match readNumber false (c :: rest) with
      | some (n, rest) => (.num n, some rest)
      | none => (.broken, none)
  | [] => (.broken, none)

/-- Reads the items of an array up to its closing bracket. -/
def readItems (read : List Char → Reading) : Nat → List Char →
    List Outline × Option (List Char)
  | 0, _ => ([], none)
  | fuel + 1, cs =>
    match read cs with
    | (item, none) => ([item], none)
    | (item, some rest) =>
      match dropBlank rest with
      | ',' :: rest =>
        let (items, rest) := readItems read fuel rest
        (item :: items, rest)
      | ']' :: rest => ([item], some rest)
      | _ => ([item], none)

/-- Reads the members of an object up to its closing brace.  A key whose value could not be
reached is kept with a broken value. -/
def readMembers (read : List Char → Reading) : Nat → List Char →
    List (String × Outline) × Option (List Char)
  | 0, _ => ([], none)
  | fuel + 1, cs =>
    match dropBlank cs with
    | '"' :: rest =>
      match readString .plain rest with
      | none => ([], none)
      | some (key, rest) =>
        let key := String.ofList key
        match dropBlank rest with
        | ':' :: rest =>
          match read rest with
          | (value, none) => ([(key, value)], none)
          | (value, some rest) =>
            match dropBlank rest with
            | ',' :: rest =>
              let (members, rest) := readMembers read fuel rest
              ((key, value) :: members, rest)
            | '}' :: rest => ([(key, value)], some rest)
            | _ => ([(key, value)], none)
        | _ => ([(key, .broken)], none)
    | _ => ([], none)

/-- Reads one value in which arrays and objects are nested at most `depth` levels deep. -/
def read : Nat → List Char → Reading
  | 0, cs =>
    match dropBlank cs with
    | '[' :: _ => (.broken, none)
    | '{' :: _ => (.broken, none)
    | cs => readScalar cs
  | depth + 1, cs =>
    match dropBlank cs with
    | '[' :: rest =>
      match dropBlank rest with
      | ']' :: rest => (.arr [] true, some rest)
      | rest =>
        let (items, after) := readItems (read depth) (rest.length + 1) rest
        (.arr items after.isSome, after)
    | '{' :: rest =>
      match dropBlank rest with
      | '}' :: rest => (.obj [] true, some rest)
      | rest =>
        let (members, after) := readMembers (read depth) (rest.length + 1) rest
        (.obj members after.isSome, after)
    | cs => readScalar cs

/-- The deepest nesting of arrays and objects that is read. -/
def depthLimit : Nat := 127

/-- Reads the value at the front of a text. -/
def ofText (text : String) : Reading := read depthLimit text.toList

end Outline

namespace Json

/-- The value of a text that holds exactly one JSON value. -/
def parse? (text : String) : Option Json :=
  match Outline.ofText text with
  | (outline, some rest) =>
    if (Outline.dropBlank rest).isEmpty then some outline.toJson else none
  | _ => none

/-- The value of bytes that hold exactly one JSON value as UTF-8. -/
def parseBytes? (bs : Bytes) : Option Json := (Utf8.decode? bs).bind parse?

end Json

end CloudStub
