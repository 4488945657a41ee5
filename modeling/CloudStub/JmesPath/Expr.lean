import CloudStub.JmesPath.Token

/-!
# Path expressions

The expressions of the path language and their grammar.  An operator takes everything on its right
that binds more strongly than itself.  A projection takes the steps that follow it up to the first
token that binds weakly, so that `a[*].b.c` applies `b.c` to every item.

## Main Definitions

- `JmesPath.Expr`: an expression
- `JmesPath.Expr.read`: reads the tokens of one expression
- `JmesPath.Path`: an expression with its text
- `JmesPath.Path.compile`: reads the text of an expression

## Design Notes

The reader is given a number of steps that the number of tokens bounds; every round through it
takes a token after a few steps.
-/

namespace CloudStub.JmesPath

/-- A path expression. -/
inductive Expr where
  /-- The current value. -/
  | current
  /-- The member with a name. -/
  | field (name : String)
  /-- The item at a position; negative positions count from the end. -/
  | index (i : Int)
  /-- The items between two positions, in steps. -/
  | slice (start stop : Option Int) (step : Int)
  /-- A value as it is. -/
  | literal (v : Json)
  /-- The second expression applied to the value of the first. -/
  | pipe (first second : Expr)
  /-- The second expression applied to each item of the first. -/
  | project (items each : Expr)
  /-- The second expression where the first holds. -/
  | guard (condition body : Expr)
  /-- The items with nested arrays replaced by their items. -/
  | flatten (e : Expr)
  /-- The values of an object. -/
  | members (e : Expr)
  /-- An array of values. -/
  | list (items : List Expr)
  /-- An object of values. -/
  | hash (entries : List (String × Expr))
  /-- The first value, or the second when the first does not hold. -/
  | or (a b : Expr)
  /-- The second value, or the first when that does not hold. -/
  | and (a b : Expr)
  /-- Whether a value does not hold. -/
  | not (e : Expr)
  /-- A comparison of two values. -/
  | compare (c : Comparison) (a b : Expr)
  /-- A function applied to values. -/
  | call (name : String) (args : List Expr)
  /-- An expression as a value.  The mark tells where in the text it stands. -/
  | ref (mark : Nat) (e : Expr)
  deriving Inhabited

namespace Expr

/-- What a reader of tokens yields: a result with the tokens behind it. -/
abbrev Reader (α : Type) := List Token → Option (α × List Token)

/-- How strongly the next token binds what stands on its left. -/
def nextPower : List Token → Nat
  | t :: _ => t.power
  | [] => 0

/-- The tokens that bind more weakly than this end a projection. -/
def projectionStop : Nat := 10

/-- How strongly comparisons bind. -/
def comparisonPower : Nat := (Token.compare .eq).power

/-- The parts of an index or a slice: the numbers read, and the colons before the current one. -/
structure Bounds where
  /-- The first number. -/
  start : Option Int
  /-- The number behind the first colon. -/
  stop : Option Int
  /-- The number behind the second colon. -/
  step : Option Int
  /-- The colons read. -/
  colons : Nat
  deriving Repr

namespace Bounds

/-- Before anything is read. -/
def empty : Bounds := ⟨none, none, none, 0⟩

/-- Keeps a number in the current place. -/
def put (b : Bounds) (i : Int) : Bounds :=
  match b.colons with
  | 0 => { b with start := some i }
  | 1 => { b with stop := some i }
  | _ => { b with step := some i }

/-- Whether a token may follow a number. -/
def afterNumber : List Token → Bool
  | .colon :: _ => true
  | .closeBracket :: _ => true
  | _ => false

/-- Whether a token may follow a colon. -/
def afterColon : List Token → Bool
  | .number _ :: _ => true
  | ts => afterNumber ts

/-- Reads up to the closing bracket. -/
def read (b : Bounds) : Reader Bounds
  | .number i :: rest => if afterNumber rest then read (b.put i) rest else none
  | .colon :: rest =>
    if b.colons < 2 && afterColon rest then read { b with colons := b.colons + 1 } rest else none
  | .closeBracket :: rest => some (b, rest)
  | _ => none

end Bounds

/-- The name of the function that an expression in front of a parenthesis stands for. -/
def functionName? : Expr → Option String
  | .field name => some name
  | _ => none

/-- The token behind an opening bracket begins an index or a slice. -/
def startsIndex : List Token → Bool
  | .number _ :: _ => true
  | .colon :: _ => true
  | _ => false

/-- Takes an expected token. -/
def expect (t : Token) : List Token → Option (List Token)
  | u :: rest => if u == t then some rest else none
  | [] => none

mutual

/-- Reads an expression up to a token that does not bind more strongly than `power`. -/
def readExpr : Nat → Nat → Reader Expr
  | 0, _, _ => none
  | fuel + 1, power, ts => do
    let (left, ts) ← readHead fuel ts
    readTail fuel power left ts

/-- Extends an expression by what follows it. -/
def readTail : Nat → Nat → Expr → Reader Expr
  | 0, _, _, _ => none
  | fuel + 1, power, left, ts =>
    if power < nextPower ts then do
      let (left, ts) ← readStep fuel left ts
      readTail fuel power left ts
    else some (left, ts)

/-- Reads the beginning of an expression. -/
def readHead : Nat → Reader Expr
  | 0, _ => none
  | fuel + 1, ts =>
    match ts with
    | .current :: rest => some (.current, rest)
    | .name s :: rest => some (.field s, rest)
    | .quotedName _ :: .openParen :: _ => none
    | .quotedName s :: rest => some (.field s, rest)
    | .star :: rest => readMembers fuel .current rest
    | .literal v :: rest => some (.literal v, rest)
    | .openBracket :: .star :: .closeBracket :: rest => readProjection fuel Token.star.power .current rest
    | .openBracket :: rest =>
      if startsIndex rest then readIndex fuel rest
      else do
        let (items, rest) ← readList fuel .closeBracket rest
        some (.list items, rest)
    | .flatten :: rest => readFlatten fuel .current rest
    | .openBrace :: rest => do
      let (entries, rest) ← readEntries fuel rest
      some (.hash entries, rest)
    | .ampersand :: rest => do
      let (e, after) ← readExpr fuel Token.ampersand.power rest
      some (.ref rest.length e, after)
    | .not :: rest => do
      let (e, rest) ← readExpr fuel Token.not.power rest
      some (.not e, rest)
    | .filter :: rest => readFilter fuel .current rest
    | .openParen :: rest => do
      let (e, rest) ← readExpr fuel 0 rest
      let rest ← expect .closeParen rest
      some (e, rest)
    | _ => none

/-- Reads the next operator behind an expression, with what stands on its right. -/
def readStep : Nat → Expr → Reader Expr
  | 0, _, _ => none
  | fuel + 1, left, ts =>
    match ts with
    | .dot :: .star :: rest => readMembers fuel left rest
    | .dot :: rest => do
      let (right, rest) ← readDot fuel Token.dot.power rest
      some (.pipe left right, rest)
    | .openBracket :: .star :: rest => do
      let rest ← expect .closeBracket rest
      readProjection fuel Token.star.power left rest
    | .openBracket :: rest =>
      if startsIndex rest then do
        let (right, rest) ← readIndex fuel rest
        some (.pipe left right, rest)
      else none
    | .or :: rest => do
      let (right, rest) ← readExpr fuel Token.or.power rest
      some (.or left right, rest)
    | .and :: rest => do
      let (right, rest) ← readExpr fuel Token.and.power rest
      some (.and left right, rest)
    | .pipe :: rest => do
      let (right, rest) ← readExpr fuel Token.pipe.power rest
      some (.pipe left right, rest)
    | .openParen :: rest => do
      let name ← functionName? left
      let (args, rest) ← readList fuel .closeParen rest
      some (.call name args, rest)
    | .flatten :: rest => readFlatten fuel left rest
    | .filter :: rest => readFilter fuel left rest
    | .compare c :: rest => do
      let (right, rest) ← readExpr fuel comparisonPower rest
      some (.compare c left right, rest)
    | _ => none

/-- Reads what stands behind a dot. -/
def readDot : Nat → Nat → Reader Expr
  | 0, _, _ => none
  | fuel + 1, power, ts =>
    match ts with
    | .openBracket :: rest => do
      let (items, rest) ← readList fuel .closeBracket rest
      some (.list items, rest)
    | .name _ :: _ => readExpr fuel power ts
    | .quotedName _ :: _ => readExpr fuel power ts
    | .star :: _ => readExpr fuel power ts
    | .openBrace :: _ => readExpr fuel power ts
    | .ampersand :: _ => readExpr fuel power ts
    | _ => none

/-- Reads the steps that a projection applies to each item. -/
def readEach : Nat → Nat → Reader Expr
  | 0, _, _ => none
  | fuel + 1, power, ts =>
    match ts with
    | .dot :: rest => readDot fuel power rest
    | .openBracket :: _ => readExpr fuel power ts
    | .filter :: _ => readExpr fuel power ts
    | ts => if nextPower ts < projectionStop then some (.current, ts) else none

/-- Reads the steps behind some items, which are projected. -/
def readProjection : Nat → Nat → Expr → Reader Expr
  | 0, _, _, _ => none
  | fuel + 1, power, items, ts => do
    let (each, ts) ← readEach fuel power ts
    some (.project items each, ts)

/-- Reads the steps behind an asterisk, which projects the values of an object. -/
def readMembers : Nat → Expr → Reader Expr
  | 0, _, _ => none
  | fuel + 1, left, ts => readProjection fuel Token.star.power (.members left) ts

/-- Reads the steps behind an empty pair of brackets. -/
def readFlatten : Nat → Expr → Reader Expr
  | 0, _, _ => none
  | fuel + 1, left, ts => readProjection fuel Token.flatten.power (.flatten left) ts

/-- Reads a condition in brackets, and the steps behind it. -/
def readFilter : Nat → Expr → Reader Expr
  | 0, _, _ => none
  | fuel + 1, left, ts => do
    let (condition, ts) ← readExpr fuel 0 ts
    let ts ← expect .closeBracket ts
    let (each, ts) ← readEach fuel Token.filter.power ts
    some (.project left (.guard condition each), ts)

/-- Reads an index or a slice behind its opening bracket. -/
def readIndex : Nat → Reader Expr
  | 0, _ => none
  | fuel + 1, ts => do
    let (b, ts) ← Bounds.empty.read ts
    if b.colons = 0 then
      let i ← b.start
      some (.index i, ts)
    else readProjection fuel Token.star.power (.slice b.start b.stop (b.step.getD 1)) ts

/-- Reads expressions up to a closing token.  Commas between them may be left out, but none may
stand before the closing token. -/
def readList : Nat → Token → Reader (List Expr)
  | 0, _, _ => none
  | fuel + 1, closing, ts =>
    match expect closing ts with
    | some rest => some ([], rest)
    | none => do
      let (e, ts) ← readExpr fuel 0 ts
      match expect .comma ts with
      | none =>
        let (more, ts) ← readList fuel closing ts
        some (e :: more, ts)
      | some ts =>
        if (expect closing ts).isSome then none
        else
          let (more, ts) ← readList fuel closing ts
          some (e :: more, ts)

/-- Reads the entries of an object up to the closing brace. -/
def readEntries : Nat → Reader (List (String × Expr))
  | 0, _ => none
  | fuel + 1, ts => do
    let (key, ts) ←
      match ts with
      | .name s :: .colon :: rest => some (s, rest)
      | .quotedName s :: .colon :: rest => some (s, rest)
      | _ => none
    let (e, ts) ← readExpr fuel 0 ts
    match ts with
    | .closeBrace :: rest => some ([(key, e)], rest)
    | .comma :: rest =>
      let (more, rest) ← readEntries fuel rest
      some ((key, e) :: more, rest)
    | _ => none

end

/-- Reads the tokens of one expression. -/
def read (ts : List Token) : Option Expr :=
  match readExpr (8 * ts.length + 16) 0 ts with
  | some (e, []) => some e
  | _ => none

end Expr

/-- An expression with its text. -/
structure Path where
  /-- The text. -/
  source : String
  /-- The expression. -/
  expr : Expr
  deriving Inhabited

/-- Reads the text of an expression. -/
def Path.compile (source : String) : Except PathError Path :=
  if (Cut.trim source.toList).isEmpty then .error .empty
  else do
    let ts ← Token.scan source.toList
    match Expr.read ts with
    | some expr => .ok ⟨source, expr⟩
    | none => .error .malformed

end CloudStub.JmesPath
