import CloudStub.JmesPath.Function

/-!
# Searching with path expressions

An expression is evaluated against a value, step by step from left to right.  What is missing reads
as null, and projections leave nulls out.

## Main Definitions

- `JmesPath.Slice.positions`: the positions of a slice
- `JmesPath.Expr.eval`: the value of an expression
- `JmesPath.Path.search`: what a path finds in a JSON value

## Design Notes

An expression may apply itself by way of an array that holds it, so evaluation is bounded: a search
may nest as many evaluations as its text can call for, and many more.
-/

namespace CloudStub.JmesPath

namespace Slice

/-- A bound of a slice among `len` items: negative bounds count from the end, and bounds outside
stop at the ends. -/
def bound (len step endpoint : Int) : Int :=
  if endpoint < 0 then
    if endpoint + len ≥ 0 then endpoint + len
    else if step < 0 then -1
    else 0
  else if endpoint < len then endpoint
  else if step < 0 then len - 1
  else len

/-- The largest position. -/
def positionLimit : Int := Int.pow 2 31 - 1

/-- The positions from `i` up to `stop`, at most `fuel` of them.  A next position that does not fit
32 bits is an error. -/
def upward (step stop : Int) : Nat → Int → Except SearchError (List Int)
  | 0, _ => .ok []
  | fuel + 1, i =>
    if i < stop then
      if i + step > positionLimit then .error .stepOverrun
      else do
        let more ← upward step stop fuel (i + step)
        .ok (i :: more)
    else .ok []

/-- The positions from `i` down to `stop`, at most `fuel` of them. -/
def downward (step stop : Int) : Nat → Int → List Int
  | 0, _ => []
  | fuel + 1, i => if i > stop then i :: downward step stop fuel (i + step) else []

/-- The positions of a slice among `len` items, in steps that are not zero. -/
def positions (len : Nat) (start stop : Option Int) (step : Int) :
    Except SearchError (List Int) :=
  let bound := bound len step
  if step > 0 then
    upward step ((stop.map bound).getD len) (len + 1) ((start.map bound).getD 0)
  else
    .ok (downward step ((stop.map bound).getD (-1)) (len + 1)
      ((start.map bound).getD ((len : Int) - 1)))

end Slice

/-- The item at a position; negative positions count from the end. -/
def itemAt (items : List Value) (i : Int) : Value :=
  if i ≥ 0 then (items[i.toNat]?).getD .null
  else if i.natAbs ≤ items.length then (items[items.length - i.natAbs]?).getD .null
  else .null

/-- The values of a projection: nulls are left out. -/
def collect (results : List Value) : Value := .arr (results.filter fun v => !v.isNull)

/-- An array with its inner arrays replaced by their items. -/
def flattened (items : List Value) : List Value :=
  items.flatMap fun v => v.items?.getD [v]

/-- The value of an expression, evaluated with at most `fuel` nested steps. -/
def Expr.eval : Nat → Expr → Value → Except SearchError Value
  | 0, _, _ => .error .tooDeep
  | fuel + 1, e, v =>
    match e with
    | .current => .ok v
    | .field name =>
      match v with
      | .obj ms => .ok ((ms.get? name).getD .null)
      | _ => .ok .null
    | .index i =>
      match v with
      | .arr items => .ok (itemAt items i)
      | _ => .ok .null
    | .slice start stop step =>
      if step = 0 then .error .zeroStep
      else
        match v with
        | .arr items => do
          let positions ← Slice.positions items.length start stop step
          .ok (.arr (positions.map (itemAt items)))
        | _ => .ok .null
    | .literal w => .ok (.ofJson w)
    | .pipe first second => do
      let w ← eval fuel first v
      eval fuel second w
    | .project items each => do
      match ← eval fuel items v with
      | .arr items =>
        let results ← items.mapM (eval fuel each)
        .ok (collect results)
      | _ => .ok .null
    | .guard condition body => do
      let c ← eval fuel condition v
      if c.holds then eval fuel body v else .ok .null
    | .flatten e => do
      match ← eval fuel e v with
      | .arr items => .ok (.arr (flattened items))
      | _ => .ok .null
    | .members e => do
      match ← eval fuel e v with
      | .obj ms => .ok (.arr (ms.toList.map (·.2)))
      | _ => .ok .null
    | .list items =>
      if v.isNull then .ok .null
      else do
        let values ← items.mapM fun e => eval fuel e v
        .ok (.arr values)
    | .hash entries =>
      if v.isNull then .ok .null
      else do
        let values ← entries.mapM fun kv => (eval fuel kv.2 v).map fun w => (kv.1, w)
        .ok (.obj (Dict.ofList values))
    | .or a b => do
      let w ← eval fuel a v
      if w.holds then .ok w else eval fuel b v
    | .and a b => do
      let w ← eval fuel a v
      if w.holds then eval fuel b v else .ok w
    | .not e => do
      let w ← eval fuel e v
      .ok (.bool !w.holds)
    | .compare c a b => do
      let x ← eval fuel a v
      let y ← eval fuel b v
      .ok (Value.compare c x y)
    | .call name args => do
      let values ← args.mapM fun e => eval fuel e v
      Function.apply name (eval fuel) values
    | .ref mark e => .ok (.ref mark e)

/-- How many evaluations a search may nest. -/
def Path.depthLimit (p : Path) : Nat := 8 * p.source.length + 1000

/-- What a path finds in a JSON value; nothing where the result is null. -/
def Path.search (p : Path) (document : Json) : Except SearchError (Option Json) := do
  let v ← p.expr.eval p.depthLimit (.ofJson document)
  .ok (if v.isNull then none else some v.toJson)

end CloudStub.JmesPath
