import CloudStub.Pattern.CharSet

/-!
# Patterns

A pattern describes texts.  Whether a text contains a match is decided by derivatives: the ways in
which a pattern can take one character, each with what remains to be matched afterwards.  Reading
a text keeps the set of all that may remain, and starts anew at every character.

Assertions look at the characters on both sides of a place, so whether a pattern can match nothing
depends on the place.

## Main Definitions

- `Pattern.Look`: an assertion about a place
- `Pattern.Node`: a pattern
- `Pattern.Node.nullable`: whether a pattern can match nothing at a place
- `Pattern.Node.after`: the ways to take one character
- `Pattern.Node.foundIn`: whether a text contains a match
-/

namespace CloudStub.Pattern

/-- A place in a text: the characters on its two sides. -/
structure Place where
  /-- The character before the place. -/
  left : Option Char
  /-- The character behind the place. -/
  right : Option Char
  deriving DecidableEq, Repr

/-- An assertion about a place. -/
inductive Look where
  /-- The start of the text. -/
  | textStart
  /-- The end of the text. -/
  | textEnd
  /-- The start of a line; with `returns`, carriage returns end lines too. -/
  | lineStart (returns : Bool)
  /-- The end of a line; with `returns`, carriage returns end lines too. -/
  | lineEnd (returns : Bool)
  /-- The edge of a word. -/
  | wordEdge (letters : CharSet)
  /-- No edge of a word. -/
  | noWordEdge (letters : CharSet)
  /-- The start of a word. -/
  | wordStart (letters : CharSet)
  /-- The end of a word. -/
  | wordEnd (letters : CharSet)
  /-- No character of a word before the place. -/
  | noWordBefore (letters : CharSet)
  /-- No character of a word behind the place. -/
  | noWordBehind (letters : CharSet)
  deriving DecidableEq, Repr

/-- Whether a side of a place belongs to a word. -/
def inWord (letters : CharSet) (side : Option Char) : Bool := side.any letters.has

/-- Whether an assertion holds at a place. -/
def Look.holds (l : Look) (p : Place) : Bool :=
  match l with
  | .textStart => p.left.isNone
  | .textEnd => p.right.isNone
  | .lineStart false => p.left.isNone || p.left == some '\n'
  | .lineStart true =>
    p.left.isNone || p.left == some '\n' || (p.left == some '\r' && p.right != some '\n')
  | .lineEnd false => p.right.isNone || p.right == some '\n'
  | .lineEnd true =>
    p.right.isNone || p.right == some '\r' || (p.right == some '\n' && p.left != some '\r')
  | .wordEdge w => inWord w p.left != inWord w p.right
  | .noWordEdge w => inWord w p.left == inWord w p.right
  | .wordStart w => !inWord w p.left && inWord w p.right
  | .wordEnd w => inWord w p.left && !inWord w p.right
  | .noWordBefore w => !inWord w p.left
  | .noWordBehind w => !inWord w p.right

/-- A pattern. -/
inductive Node where
  /-- Nothing. -/
  | empty
  /-- A character of a set. -/
  | set (s : CharSet)
  /-- An assertion. -/
  | look (l : Look)
  /-- Patterns one after another. -/
  | seq (parts : List Node)
  /-- One of several patterns. -/
  | alt (choices : List Node)
  /-- A pattern repeated, at least and at most so many times. -/
  | repeated (n : Node) (least : Nat) (most : Option Nat)
  /-- A pattern in parentheses. -/
  | group (n : Node)
  deriving BEq, Repr, Inhabited

namespace Node

mutual

/-- Whether a pattern can match nothing at a place. -/
def nullable (p : Place) : Node → Bool
  | .empty => true
  | .set _ => false
  | .look l => l.holds p
  | .seq parts => allNullable p parts
  | .alt choices => anyNullable p choices
  | .repeated n least _ => least == 0 || nullable p n
  | .group n => nullable p n

/-- Whether each of several patterns can match nothing. -/
def allNullable (p : Place) : List Node → Bool
  | [] => true
  | n :: rest => nullable p n && allNullable p rest

/-- Whether one of several patterns can match nothing. -/
def anyNullable (p : Place) : List Node → Bool
  | [] => false
  | n :: rest => nullable p n || anyNullable p rest

end

/-- A repetition behind one of its rounds.  Rounds before it may have matched nothing when that is
possible at the place, and then no further rounds are due. -/
def nextRound (n : Node) (nullable : Bool) (least : Nat) (most : Option Nat) : Node :=
  .repeated n (if nullable then 0 else least - 1) (most.map (· - 1))

mutual

/-- The ways in which a pattern can take the character behind a place: each is a sequence of
patterns that remain. -/
def after (p : Place) (c : Char) : Node → List (List Node)
  | .empty => []
  | .set s => if s.has c then [[]] else []
  | .look _ => []
  | .seq parts => afterAll p c parts
  | .alt choices => afterAny p c choices
  | .repeated n least most =>
    if most == some 0 then []
    else (after p c n).map (· ++ [nextRound n (nullable p n) least most])
  | .group n => after p c n

/-- The ways of patterns one after another. -/
def afterAll (p : Place) (c : Char) : List Node → List (List Node)
  | [] => []
  | n :: rest =>
    (after p c n).map (· ++ rest) ++ (if nullable p n then afterAll p c rest else [])

/-- The ways of one of several patterns. -/
def afterAny (p : Place) (c : Char) : List Node → List (List Node)
  | [] => []
  | n :: rest => after p c n ++ afterAny p c rest

end

/-- Whether a text contains the end of a match, given what may remain to be matched before its
first character. -/
def findFrom (n : Node) (left : Option Char) (pending : List (List Node)) : List Char → Bool
  | [] => ([n] :: pending).any (allNullable ⟨left, none⟩)
  | c :: rest =>
    let p : Place := ⟨left, some c⟩
    let pending := [n] :: pending
    pending.any (allNullable p) ||
      findFrom n (some c) (pending.flatMap (afterAll p c)).eraseDups rest

/-- Whether a text contains a match. -/
def foundIn (n : Node) (text : String) : Bool := findFrom n none [] text.toList

/-- The number of bytes that a state of the unfolded pattern is taken to need. -/
def stateSize : Nat := 32

/-- The number of bytes that a set of characters is taken to need. -/
def setSize : CharSet → Nat
  | .range first last =>
    if first = last then stateSize * (Char.ofNat first).utf8Size else stateSize
  | .ranges rs => stateSize * (rs.length + 1)
  | .none => stateSize
  | .any => 16 * stateSize
  | .categories _ | .alphabetic | .lowercase | .uppercase | .word => 1400 * stateSize
  | .digit => 100 * stateSize
  | .blank => 20 * stateSize
  | .not s => setSize s + 16 * stateSize
  | .or a b => setSize a + setSize b
  | .and a b => max (setSize a) (setSize b)
  | .folded s => 2 * setSize s
  | .asciiFolded s => setSize s

mutual

/-- The number of bytes that the unfolded pattern is taken to need. -/
def size : Node → Nat
  | .empty => 0
  | .set s => setSize s
  | .look _ => stateSize
  | .seq parts => totalSize parts
  | .alt choices => stateSize + totalSize choices
  | .repeated n least most =>
    match most with
    | none => (max least 1) * size n + 2 * stateSize
    | some most => most * size n + (most - least) * stateSize
  | .group n => size n + 2 * stateSize

/-- The number of bytes of several patterns. -/
def totalSize : List Node → Nat
  | [] => 0
  | n :: rest => size n + totalSize rest

end

mutual

/-- How deeply a pattern is nested. -/
def depth : Node → Nat
  | .empty => 0
  | .set _ => 0
  | .look _ => 0
  | .seq parts => maxDepth parts + 1
  | .alt choices => maxDepth choices + 1
  | .repeated n _ _ => depth n + 1
  | .group n => depth n + 1

/-- How deeply the deepest of several patterns is nested. -/
def maxDepth : List Node → Nat
  | [] => 0
  | n :: rest => max (depth n) (maxDepth rest)

end

end Node

end CloudStub.Pattern
