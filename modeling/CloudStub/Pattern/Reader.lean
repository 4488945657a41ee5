import CloudStub.Pattern.Basic
import CloudStub.Text.Cut

/-!
# Reading patterns

The written form of patterns: characters and escapes, sets in brackets, groups, alternatives,
repetitions, and flags that change the meaning of what follows them up to the end of their group.

## Main Definitions

- `Pattern.Flags`: the flags in force
- `Pattern.Node.read`: reads the text of a pattern
- `Pattern`: a pattern with its text
- `Pattern.compile`, `Pattern.foundIn`: reading and searching

## Design Notes

A pattern always describes text, so sets that contain part of a character are refused when the
flags ask for bytes.  Patterns that unfold to more than ten mebibytes or nest more than 250 levels
deep are refused too.
-/

namespace CloudStub.Pattern

/-- The flags in force at a place of a pattern. -/
structure Flags where
  /-- Letter case does not count. -/
  ignoreCase : Bool
  /-- Lines have starts and ends. -/
  multiLine : Bool
  /-- The dot takes line feeds. -/
  dotAll : Bool
  /-- Classes go beyond ASCII. -/
  unicode : Bool
  /-- Blanks and comments do not count. -/
  verbose : Bool
  /-- Carriage returns end lines. -/
  returns : Bool
  deriving DecidableEq, Repr

namespace Flags

/-- The flags at the start of a pattern. -/
def initial : Flags := ⟨false, false, false, true, false, false⟩

/-- Sets the flag that a letter names; the letter for greed has no effect on what is found. -/
def set? (f : Flags) (letter : Char) (value : Bool) : Option Flags :=
  match letter with
  | 'i' => some { f with ignoreCase := value }
  | 'm' => some { f with multiLine := value }
  | 's' => some { f with dotAll := value }
  | 'u' => some { f with unicode := value }
  | 'x' => some { f with verbose := value }
  | 'R' => some { f with returns := value }
  | 'U' => some f
  | _ => none

/-- Closes a set under letter case when case does not count. -/
def fold (f : Flags) (s : CharSet) : CharSet :=
  if f.ignoreCase then if f.unicode then .folded s else .asciiFolded s else s

/-- The characters of words. -/
def wordSet (f : Flags) : CharSet := if f.unicode then .word else .asciiWord

/-- A set as a pattern, unless it contains part of a character. -/
def setNode? (f : Flags) (s : CharSet) : Option Node :=
  if f.unicode || s.isAscii then some (.set s) else none

/-- The characters that a dot takes. -/
def dot (f : Flags) : CharSet :=
  if f.dotAll then .any
  else if f.returns then .not (.ranges [(10, 10), (13, 13)])
  else .not (.single '\n')

end Flags

/-- Without a comment, or without blanks and comments, at the front. -/
def skipBlank (inComment : Bool) : List Char → List Char
  | [] => []
  | c :: rest =>
    if inComment then skipBlank (c != '\n') rest
    else if Unicode.isBlank c then skipBlank false rest
    else if c == '#' then skipBlank true rest
    else c :: rest

/-- Without blanks and comments at the front, where these do not count. -/
def Flags.skip (f : Flags) (cs : List Char) : List Char :=
  if f.verbose then skipBlank false cs else cs

/-- What a reader yields: a result with the text behind it. -/
abbrev Reader (α : Type) := List Char → Option (α × List Char)

/-- What a single character or escape stands for. -/
inductive Atom where
  /-- A character; with `byte`, written as the number of a byte. -/
  | char (c : Char) (byte : Bool)
  /-- A set. -/
  | set (s : CharSet)
  /-- An assertion. -/
  | look (l : Look)
  deriving Repr

namespace Atom

/-- The value of hexadecimal digits. -/
def hexValue (ds : List Char) : Option Nat :=
  (ds.mapM Ascii.hexDigit?).map fun vs => vs.foldl (fun n d => n * 16 + d) 0

/-- The character with a code point. -/
def charOf? (n : Nat) : Option Char :=
  if n < 0xD800 || (0xE000 ≤ n && n < 0x110000) then some (Char.ofNat n) else none

/-- Exactly so many characters, blanks between them skipped where they do not count. -/
def take (f : Flags) : Nat → Reader (List Char)
  | 0, cs => some ([], cs)
  | n + 1, c :: rest => (take f n (f.skip rest)).map fun p => (c :: p.1, p.2)
  | _ + 1, [] => none

/-- The characters up to a closing brace, at most so many. -/
def upToBrace (f : Flags) : Nat → Reader (List Char)
  | 0, _ => none
  | _, [] => none
  | n + 1, c :: rest =>
    if c == '}' then some ([], rest)
    else (upToBrace f n (f.skip rest)).map fun p => (c :: p.1, p.2)

/-- A character written as a hexadecimal number: in braces, or with a fixed number of digits. -/
def readHex (f : Flags) (width : Nat) : Reader Atom := fun cs =>
  match f.skip cs with
  | '{' :: rest => do
    let (digits, rest) ← upToBrace f (rest.length + 1) (f.skip rest)
    if digits.isEmpty then none
    else do
      let c ← (hexValue digits).bind charOf?
      some (.char c false, f.skip rest)
  | cs => do
    let (digits, rest) ← take f width cs
    let c ← (hexValue digits).bind charOf?
    some (.char c (width == 2), f.skip rest)

/-- The set of a property between braces: a name, or a kind and a value. -/
def propertyOf? (content : List Char) : Option CharSet :=
  match Cut.first? '!' content with
  | some (kind, '=' :: value) => (CharSet.ofPropertyValue? kind value).map .not
  | _ =>
    match Cut.first? ':' content <|> Cut.first? '=' content with
    | some (kind, value) => CharSet.ofPropertyValue? kind value
    | none => CharSet.ofProperty? content

/-- A property of characters. -/
def readProperty (f : Flags) (negated : Bool) : Reader Atom := fun cs => do
  let (s, rest) ←
    match f.skip cs with
    | '{' :: rest => do
      let (content, rest) ← upToBrace f (rest.length + 1) (f.skip rest)
      let s ← propertyOf? content
      some (s, rest)
    | '\\' :: _ => none
    | c :: rest => do
      let s ← CharSet.ofProperty? [c]
      some (s, f.skip rest)
    | [] => none
  if f.unicode then some (.set (.negateIf negated (f.fold s)), rest) else none

/-- A class named by a letter. -/
def classOf (f : Flags) (letter : Char) : Option CharSet :=
  match letter with
  | 'd' => some (if f.unicode then .digit else .asciiDigit)
  | 's' => some (if f.unicode then .blank else .asciiBlank)
  | 'w' => some f.wordSet
  | 'D' => some (.not (if f.unicode then .digit else .asciiDigit))
  | 'S' => some (.not (if f.unicode then .blank else .asciiBlank))
  | 'W' => some (.not f.wordSet)
  | _ => none

/-- The control character that a letter stands for. -/
def controlOf? (letter : Char) : Option Char :=
  match letter with
  | 'a' => some '\x07'
  | 'f' => some '\x0c'
  | 't' => some '\t'
  | 'n' => some '\n'
  | 'r' => some '\r'
  | 'v' => some '\x0b'
  | _ => none

/-- Whether a character stands for itself behind a backslash: any ASCII character but letters,
digits and angle brackets. -/
def isEscapable (c : Char) : Bool :=
  c.toNat < 128 && !Unicode.isAsciiLetter c && !Unicode.isAsciiDigit c && c != '<' && c != '>'

/-- The characters of the names of word assertions. -/
def isEdgeNameChar (c : Char) : Bool := Unicode.isAsciiLetter c || c == '-'

/-- The word assertion with a name. -/
def edgeOf? (f : Flags) (name : String) : Option Look :=
  match name with
  | "start" => some (.wordStart f.wordSet)
  | "end" => some (.wordEnd f.wordSet)
  | "start-half" => some (.noWordBefore f.wordSet)
  | "end-half" => some (.noWordBehind f.wordSet)
  | _ => none

/-- The edge of a word, or the assertion whose name follows in braces. -/
def readEdge (f : Flags) : Reader Atom := fun cs =>
  match cs with
  | '{' :: rest =>
    match f.skip rest with
    | [] => none
    | c :: more =>
      if !isEdgeNameChar c then some (.look (.wordEdge f.wordSet), cs)
      else do
        let (name, rest) ← upToBrace f (more.length + 1) (c :: more)
        let l ← edgeOf? f (String.ofList name)
        some (.look l, rest)
  | cs => some (.look (.wordEdge f.wordSet), cs)

/-- Reads an escape behind its backslash. -/
def readEscape (f : Flags) : Reader Atom
  | [] => none
  | c :: rest =>
    if isEscapable c then some (.char c false, rest)
    else
      match controlOf? c, classOf f c with
      | some control, _ => some (.char control false, rest)
      | none, some s => some (.set s, rest)
      | none, none =>
        if c == 'x' then readHex f 2 rest
        else if c == 'u' then readHex f 4 rest
        else if c == 'U' then readHex f 8 rest
        else if c == 'p' then readProperty f false rest
        else if c == 'P' then readProperty f true rest
        else if c == 'A' then some (.look .textStart, rest)
        else if c == 'z' then some (.look .textEnd, rest)
        else if c == 'b' then readEdge f rest
        else if c == 'B' then some (.look (.noWordEdge f.wordSet), rest)
        else if c == '<' then some (.look (.wordStart f.wordSet), rest)
        else if c == '>' then some (.look (.wordEnd f.wordSet), rest)
        else none

/-- The pattern of an atom outside brackets. -/
def node? (f : Flags) : Atom → Option Node
  | .char c byte =>
    if byte && !f.unicode && c.toNat ≥ 128 then none
    else some (.set (if f.unicode || c.toNat < 128 then f.fold (.single c) else .single c))
  | .set s => f.setNode? s
  | .look l => some (.look l)

/-- The set of an atom inside brackets. -/
def member? (f : Flags) : Atom → Option CharSet
  | .char c _ => if f.unicode || c.toNat < 128 then some (.single c) else none
  | .set s => if f.unicode || s.isAscii then some s else none
  | .look _ => none

/-- The character of an atom at an end of a range. -/
def endpoint? (f : Flags) : Atom → Option Char
  | .char c _ => if f.unicode || c.toNat < 128 then some c else none
  | _ => none

end Atom

/-! ### Sets in brackets -/

namespace Bracket

/-- The operations between sets. -/
inductive Op where
  /-- The characters of both sets. -/
  | and
  /-- The characters of the first set outside the second. -/
  | diff
  /-- The characters of exactly one set. -/
  | xor
  deriving DecidableEq, Repr

/-- The set that an operation makes. -/
def Op.apply (o : Op) (a b : CharSet) : CharSet :=
  match o with
  | .and => .and a b
  | .diff => .diff a b
  | .xor => .xor a b

/-- Completes an operation whose second set has been read. -/
def close (f : Flags) (pending : Option (CharSet × Op)) (s : CharSet) : CharSet :=
  match pending with
  | some (a, o) => o.apply (f.fold a) (f.fold s)
  | none => s

/-- The name of a class between colons, with a mark of negation, up to the closing bracket. -/
def className? (cs : List Char) : Option (CharSet × List Char) :=
  match cs with
  | ':' :: rest =>
    let (negated, rest) :=
      match rest with
      | '^' :: rest => (true, rest)
      | rest => (false, rest)
    match Cut.first? ':' rest with
    | some (name, ']' :: rest) =>
      (CharSet.ofClassName? (String.ofList name)).map fun s => (.negateIf negated s, rest)
    | _ => none
  | _ => none

/-- Reads one atom of a set. -/
def readAtom (f : Flags) : Reader Atom
  | '\\' :: rest => Atom.readEscape f rest
  | c :: rest => some (.char c false, rest)
  | [] => none

/-- Whether a minus sign at the front begins the second half of a range. -/
def startsRange (f : Flags) : List Char → Bool
  | '-' :: rest =>
    match f.skip rest with
    | ']' :: _ => false
    | '-' :: _ => false
    | _ => true
  | _ => false

/-- Reads a character, a class or a range. -/
def readItem (f : Flags) : Reader CharSet := fun cs => do
  let (first, rest) ← readAtom f cs
  let rest := f.skip rest
  if rest.isEmpty then none
  else if startsRange f rest then
    let rest := f.skip (rest.drop 1)
    let (last, rest) ← readAtom f rest
    let a ← first.endpoint? f
    let b ← last.endpoint? f
    if a ≤ b then some (.range a.toNat b.toNat, rest) else none
  else do
    let s ← first.member? f
    some (s, rest)

/-- The minus signs at the front. -/
def leadingMinus (f : Flags) : Nat → List Char → Bool × List Char
  | 0, cs => (false, cs)
  | fuel + 1, cs =>
    match cs with
    | '-' :: rest => (true, (leadingMinus f fuel (f.skip rest)).2)
    | cs => (false, cs)

mutual

/-- Reads a set behind its opening bracket.  A closing bracket that comes first stands for
itself, and so do leading minus signs. -/
def readSet (f : Flags) : Nat → Reader CharSet
  | 0, _ => none
  | fuel + 1, cs => do
    let (negated, cs) :=
      match f.skip cs with
      | '^' :: rest => (true, f.skip rest)
      | cs => (false, cs)
    let (minus, cs) := leadingMinus f cs.length cs
    let start : CharSet := if minus then .single '-' else .none
    let (start, cs) :=
      match minus, cs with
      | false, ']' :: rest => (CharSet.single ']', f.skip rest)
      | _, cs => (start, cs)
    let (s, rest) ← readRest f fuel none start cs
    some (.negateIf negated (f.fold s), rest)

/-- Reads on up to the closing bracket. -/
def readRest (f : Flags) : Nat → Option (CharSet × Op) → CharSet → Reader CharSet
  | 0, _, _, _ => none
  | fuel + 1, pending, s, cs =>
    match f.skip cs with
    | [] => none
    | ']' :: rest => some (close f pending s, rest)
    | '&' :: '&' :: rest => readRest f fuel (some (close f pending s, .and)) .none rest
    | '-' :: '-' :: rest => readRest f fuel (some (close f pending s, .diff)) .none rest
    | '~' :: '~' :: rest => readRest f fuel (some (close f pending s, .xor)) .none rest
    | '[' :: rest =>
      match className? rest with
      | some (t, rest) =>
        if f.unicode || t.isAscii then readRest f fuel pending (.or s t) rest else none
      | none => do
        let (t, rest) ← readSet f fuel rest
        readRest f fuel pending (.or s t) rest
    | cs => do
      let (t, rest) ← readItem f cs
      readRest f fuel pending (.or s t) rest

end

end Bracket

/-! ### Groups and flags -/

/-- Where a reader of flags stands: the flags so far, whether they are being cleared, the letters
seen, and whether the last character was the minus sign. -/
structure FlagScan where
  /-- The flags so far. -/
  flags : Flags
  /-- Whether flags are being cleared. -/
  clearing : Bool
  /-- The letters seen. -/
  seen : List Char
  /-- Whether the last character was the minus sign. -/
  dangling : Bool

/-- Reads flags up to a colon or a closing parenthesis, which follows them. -/
def readFlags (s : FlagScan) : Reader FlagScan
  | [] => none
  | c :: rest =>
    if c == ':' || c == ')' then if s.dangling then none else some (s, c :: rest)
    else if s.seen.contains c then none
    else if c == '-' then
      readFlags { s with clearing := true, seen := c :: s.seen, dangling := true } rest
    else do
      let flags ← s.flags.set? c (!s.clearing)
      readFlags { s with flags, seen := c :: s.seen, dangling := false } rest

/-- Whether a character may stand in the name of a group. -/
def isGroupNameChar (first : Bool) (c : Char) : Bool :=
  if first then c == '_' || Unicode.isAlphabetic c
  else c == '_' || c == '.' || c == '[' || c == ']' || Unicode.isAlphanumeric c

/-- Reads the name of a group up to its closing angle bracket. -/
def readGroupName : Reader String := fun cs =>
  match Cut.first? '>' cs with
  | some (c :: name, rest) =>
    if isGroupNameChar true c && name.all (isGroupNameChar false) then
      some (String.ofList (c :: name), rest)
    else none
  | _ => none

/-- What an opening parenthesis begins. -/
inductive Opening where
  /-- A group with these flags inside, and a name that has to be new. -/
  | group (inside : Flags) (name : Option String)
  /-- Flags for the rest of the group around. -/
  | flags (f : Flags)

/-- Reads what follows an opening parenthesis. -/
def readOpening (f : Flags) : Reader Opening := fun cs =>
  match f.skip cs with
  | '?' :: '=' :: _ => none
  | '?' :: '!' :: _ => none
  | '?' :: '<' :: '=' :: _ => none
  | '?' :: '<' :: '!' :: _ => none
  | '?' :: 'P' :: '<' :: rest =>
    (readGroupName rest).map fun p => (.group f (some p.1), p.2)
  | '?' :: '<' :: rest => (readGroupName rest).map fun p => (.group f (some p.1), p.2)
  | '?' :: rest => do
    let (s, rest) ← readFlags ⟨f, false, [], false⟩ rest
    match rest with
    | ':' :: rest => some (.group s.flags none, rest)
    | ')' :: rest => if s.seen.isEmpty then none else some (.flags s.flags, rest)
    | _ => none
  | cs => some (.group f none, cs)

/-! ### Repetitions -/

/-- The largest number of repetitions that can be written. -/
def countLimit : Nat := Nat.pow 2 32 - 1

/-- Reads a number with blanks around it. -/
def readCount (f : Flags) : Nat → List Char → Reader Nat
  | 0, _, _ => none
  | fuel + 1, digits, cs =>
    match cs with
    | c :: rest =>
      if Unicode.isAsciiDigit c then readCount f fuel (c :: digits) (f.skip rest)
      else if digits.isEmpty && !Unicode.isBlank c then none
      else if digits.isEmpty then readCount f fuel digits rest
      else
        let n := Ascii.decimalValue digits.reverse
        if n ≤ countLimit then some (n, f.skip (cs.dropWhile Unicode.isBlank)) else none
    | [] => none

/-- Reads the bounds of a repetition behind the opening brace. -/
def readBounds (f : Flags) : Reader (Nat × Option Nat) := fun cs => do
  let cs := f.skip cs
  let (least, rest) ← readCount f (cs.length + 1) [] cs
  match rest with
  | '}' :: rest => some ((least, some least), rest)
  | ',' :: rest =>
    match f.skip rest with
    | '}' :: rest => some ((least, none), rest)
    | cs => do
      let (most, rest) ← readCount f (cs.length + 1) [] cs
      match rest with
      | '}' :: rest => if least ≤ most then some ((least, some most), rest) else none
      | _ => none
  | _ => none

/-- Drops the question mark of a repetition that prefers few rounds. -/
def dropLazy : List Char → List Char
  | '?' :: rest => rest
  | cs => cs

/-! ### Sequences and alternatives -/

/-- The pattern of several patterns one after another. -/
def sequence (parts : List Node) : Node :=
  match parts with
  | [] => .empty
  | [n] => n
  | ns => .seq ns

/-- The pattern of several alternatives. -/
def alternatives (choices : List Node) : Node :=
  match choices with
  | [n] => n
  | ns => .alt ns

/-- What has been read of a group. -/
structure Partial where
  /-- The flags in force. -/
  flags : Flags
  /-- The parts of the current alternative, last first. -/
  parts : List Node
  /-- The alternatives before it, last first. -/
  choices : List Node
  /-- The names of groups so far. -/
  names : List String

namespace Partial

/-- Before anything is read. -/
def start (flags : Flags) (names : List String) : Partial := ⟨flags, [], [], names⟩

/-- Adds a part. -/
def add (p : Partial) (n : Node) : Partial := { p with parts := n :: p.parts }

/-- Begins a new alternative. -/
def nextChoice (p : Partial) : Partial :=
  { p with parts := [], choices := sequence p.parts.reverse :: p.choices }

/-- The pattern of everything read. -/
def node (p : Partial) : Node := alternatives (p.nextChoice.choices.reverse)

/-- Repeats the last part, which must be there and not be flags. -/
def repeatLast (p : Partial) (least : Nat) (most : Option Nat) : Option Partial :=
  match p.parts with
  | [] => none
  | .empty :: _ => none
  | n :: rest => some { p with parts := .repeated n least most :: rest }

end Partial

mutual

/-- Reads a group up to its closing parenthesis, or to the end of the pattern. -/
def readGroup : Nat → Partial → Reader Partial
  | 0, _, _ => none
  | fuel + 1, p, cs =>
    let f := p.flags
    match f.skip cs with
    | [] => some (p, [])
    | ')' :: rest => some (p, ')' :: rest)
    | '(' :: rest => readParen fuel p rest
    | '|' :: rest => readGroup fuel p.nextChoice rest
    | '[' :: rest => do
      let (s, rest) ← Bracket.readSet f fuel rest
      let n ← f.setNode? s
      readGroup fuel (p.add n) rest
    | '?' :: rest => do
      let p ← p.repeatLast 0 (some 1)
      readGroup fuel p (dropLazy rest)
    | '*' :: rest => do
      let p ← p.repeatLast 0 none
      readGroup fuel p (dropLazy rest)
    | '+' :: rest => do
      let p ← p.repeatLast 1 none
      readGroup fuel p (dropLazy rest)
    | '{' :: rest => do
      let ((least, most), rest) ← readBounds f rest
      let p ← p.repeatLast least most
      readGroup fuel p (dropLazy (f.skip rest))
    | '.' :: rest => do
      let n ← f.setNode? f.dot
      readGroup fuel (p.add n) rest
    | '^' :: rest =>
      let l := if f.multiLine then Look.lineStart f.returns else .textStart
      readGroup fuel (p.add (.look l)) rest
    | '$' :: rest =>
      let l := if f.multiLine then Look.lineEnd f.returns else .textEnd
      readGroup fuel (p.add (.look l)) rest
    | '\\' :: rest => do
      let (a, rest) ← Atom.readEscape f rest
      let n ← a.node? f
      readGroup fuel (p.add n) rest
    | c :: rest => do
      let n ← (Atom.char c false).node? f
      readGroup fuel (p.add n) rest

/-- Reads what an opening parenthesis begins, and on behind it. -/
def readParen : Nat → Partial → Reader Partial
  | 0, _, _ => none
  | fuel + 1, p, cs => do
    let (opening, rest) ← readOpening p.flags cs
    match opening with
    | .flags flags => readGroup fuel { p.add .empty with flags } rest
    | .group inside name =>
      let names ←
        match name with
        | none => some p.names
        | some name => if p.names.contains name then none else some (name :: p.names)
      let (inner, rest) ← readGroup fuel (.start inside names) rest
      match rest with
      | ')' :: rest =>
        readGroup fuel { p.add (.group inner.node) with names := inner.names } rest
      | _ => none

end

/-- The deepest nesting of a pattern. -/
def depthLimit : Nat := 250

/-- The most bytes that a pattern may need. -/
def sizeLimit : Nat := 10 * Nat.pow 2 20

/-- Reads the text of a pattern. -/
def Node.read (text : List Char) : Option Node :=
  match readGroup (2 * text.length + 2) (.start .initial []) text with
  | some (p, []) =>
    let n := p.node
    if n.depth ≤ depthLimit && n.size ≤ sizeLimit then some n else none
  | _ => none

end Pattern

/-- A pattern with its text. -/
structure Pattern where
  /-- The text. -/
  source : String
  /-- The pattern. -/
  node : Pattern.Node
  deriving BEq, Repr, Inhabited

namespace Pattern

/-- Reads the text of a pattern. -/
def compile (source : String) : Option Pattern :=
  (Node.read source.toList).map fun node => ⟨source, node⟩

/-- Whether a text contains a match. -/
def foundIn (p : Pattern) (text : String) : Bool := p.node.foundIn text

end Pattern

end CloudStub
