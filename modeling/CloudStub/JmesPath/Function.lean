import CloudStub.JmesPath.Value

/-!
# Functions of path expressions

Every function states the types of its arguments, which are checked before it is applied.  Some
functions take an expression and apply it to the items of an array; how expressions are evaluated
is a parameter here.

## Main Definitions

- `JmesPath.SearchError`: why an evaluation fails
- `JmesPath.ArgType`, `JmesPath.Signature`: what arguments a function takes
- `JmesPath.Function`: the functions
- `JmesPath.Function.apply`: a function applied to arguments
-/

namespace CloudStub.JmesPath

/-- Why an evaluation fails. -/
inductive SearchError where
  /-- A slice in steps of zero. -/
  | zeroStep
  /-- A slice whose next position does not fit 32 bits. -/
  | stepOverrun
  /-- A function that does not exist. -/
  | unknownFunction (name : String)
  /-- A wrong number of arguments. -/
  | wrongCount (name : String)
  /-- An argument of a wrong type. -/
  | wrongType (name : String)
  /-- An expression that yields values that cannot be ordered. -/
  | notOrdered (name : String)
  /-- A result that is not a number. -/
  | notFinite (name : String)
  /-- Expressions that apply each other too many times. -/
  | tooDeep
  deriving DecidableEq, Repr

/-- The type of an argument. -/
inductive ArgType where
  /-- Any value. -/
  | any
  /-- Values of one of these types. -/
  | oneOf (kinds : List Kind)
  /-- Arrays all of whose items have one of these types, the same for all. -/
  | arrayOf (kinds : List Kind)
  deriving DecidableEq, Repr

/-- Whether a value has the type. -/
def ArgType.accepts (t : ArgType) (v : Value) : Bool :=
  match t with
  | .any => true
  | .oneOf kinds => kinds.contains v.kind
  | .arrayOf kinds =>
    match v.items? with
    | some items => kinds.any fun k => items.all fun item => item.kind == k
    | none => false

/-- The arguments of a function: the types of the first ones, and the type of any further ones. -/
structure Signature where
  /-- The types of the arguments that must be there. -/
  required : List ArgType
  /-- The type of further arguments, when there may be any. -/
  further : Option ArgType
  deriving DecidableEq, Repr

namespace Signature

/-- Whether there are as many arguments as the signature wants. -/
def acceptsCount (s : Signature) (n : Nat) : Bool :=
  n = s.required.length || (n > s.required.length && s.further.isSome)

/-- Whether each argument has its type. -/
def acceptsTypes : List ArgType → Option ArgType → List Value → Bool
  | t :: ts, further, v :: vs => t.accepts v && acceptsTypes ts further vs
  | [], some t, v :: vs => t.accepts v && acceptsTypes [] (some t) vs
  | _, _, _ => true

/-- Checks the arguments of a function. -/
def check (s : Signature) (name : String) (args : List Value) : Except SearchError Unit :=
  if !s.acceptsCount args.length then .error (.wrongCount name)
  else if !acceptsTypes s.required s.further args then .error (.wrongType name)
  else .ok ()

end Signature

/-- The functions. -/
inductive Function where
  /-- The absolute value. -/
  | abs
  /-- The mean. -/
  | avg
  /-- The next whole number above. -/
  | ceil
  /-- Whether an array has an item, or a text a piece. -/
  | contains
  /-- Whether a text has an end. -/
  | endsWith
  /-- The next whole number below. -/
  | floor
  /-- The texts of an array with a text between them. -/
  | join
  /-- The keys of an object. -/
  | keys
  /-- The number of characters, items or members. -/
  | length
  /-- An expression applied to each item. -/
  | map
  /-- The largest item. -/
  | max
  /-- The item for which an expression is largest. -/
  | maxBy
  /-- All members of several objects. -/
  | merge
  /-- The smallest item. -/
  | min
  /-- The item for which an expression is smallest. -/
  | minBy
  /-- The first value that is not null. -/
  | notNull
  /-- The reverse of an array or a text. -/
  | reverse
  /-- The items in order. -/
  | sort
  /-- The items in the order of an expression. -/
  | sortBy
  /-- Whether a text has a beginning. -/
  | startsWith
  /-- The sum. -/
  | sum
  /-- An array as it is, any other value as an array of one item. -/
  | toArray
  /-- A number as it is, a text as the value that it spells. -/
  | toNumber
  /-- A text as it is, any other value as its JSON text. -/
  | toString
  /-- The name of the type. -/
  | type
  /-- The values of an object. -/
  | values
  deriving DecidableEq, Repr

namespace Function

/-- The functions by name. -/
def table : List (String × Function) :=
  [("abs", .abs), ("avg", .avg), ("ceil", .ceil), ("contains", .contains),
   ("ends_with", .endsWith), ("floor", .floor), ("join", .join), ("keys", .keys),
   ("length", .length), ("map", .map), ("max", .max), ("max_by", .maxBy), ("merge", .merge),
   ("min", .min), ("min_by", .minBy), ("not_null", .notNull), ("reverse", .reverse),
   ("sort", .sort), ("sort_by", .sortBy), ("starts_with", .startsWith), ("sum", .sum),
   ("to_array", .toArray), ("to_number", .toNumber), ("to_string", .toString), ("type", .type),
   ("values", .values)]

/-- The function with a name. -/
def ofName? (name : String) : Option Function := Entries.get? name table

/-- The arguments that a function takes. -/
def signature : Function → Signature
  | .abs => ⟨[.oneOf [.number]], none⟩
  | .avg => ⟨[.arrayOf [.number]], none⟩
  | .ceil => ⟨[.oneOf [.number]], none⟩
  | .contains => ⟨[.oneOf [.string, .array], .any], none⟩
  | .endsWith => ⟨[.oneOf [.string], .oneOf [.string]], none⟩
  | .floor => ⟨[.oneOf [.number]], none⟩
  | .join => ⟨[.oneOf [.string], .arrayOf [.string]], none⟩
  | .keys => ⟨[.oneOf [.object]], none⟩
  | .length => ⟨[.oneOf [.array, .object, .string]], none⟩
  | .map => ⟨[.oneOf [.expref], .oneOf [.array]], none⟩
  | .max => ⟨[.arrayOf [.string, .number]], none⟩
  | .maxBy => ⟨[.oneOf [.array], .oneOf [.expref]], none⟩
  | .merge => ⟨[.oneOf [.object]], some (.oneOf [.object])⟩
  | .min => ⟨[.arrayOf [.string, .number]], none⟩
  | .minBy => ⟨[.oneOf [.array], .oneOf [.expref]], none⟩
  | .notNull => ⟨[.any], some .any⟩
  | .reverse => ⟨[.oneOf [.array, .string]], none⟩
  | .sort => ⟨[.arrayOf [.string, .number]], none⟩
  | .sortBy => ⟨[.oneOf [.array], .oneOf [.expref]], none⟩
  | .startsWith => ⟨[.oneOf [.string], .oneOf [.string]], none⟩
  | .sum => ⟨[.arrayOf [.number]], none⟩
  | .toArray => ⟨[.any], none⟩
  | .toNumber => ⟨[.any], none⟩
  | .toString => ⟨[.oneOf [.object, .array, .boolean, .number, .string, .null]], none⟩
  | .type => ⟨[.any], none⟩
  | .values => ⟨[.oneOf [.object]], none⟩

/-- A finite floating-point number as a value. -/
def finite (name : String) (x : Float) : Except SearchError Value :=
  if x.isFinite then .ok (.num (.float x)) else .error (.notFinite name)

/-- The sum of numbers. -/
def total (items : List Value) : Float := items.foldl (fun s v => s + v.float?.getD 0) 0

/-- A natural number as a value. -/
def count (n : Nat) : Value := .num (.int n)

/-- The last of the largest values. -/
def largest (items : List Value) : Value :=
  match items with
  | [] => .null
  | v :: rest => rest.foldl (fun best v => if v.before best then best else v) v

/-- The first of the smallest values. -/
def smallest (items : List Value) : Value :=
  match items with
  | [] => .null
  | v :: rest => rest.foldl (fun best v => if v.before best then v else best) v

/-- The keys by which items are ordered: all texts or all numbers. -/
def orderKeys (name : String) (eval : Value → Except SearchError Value) :
    List Value → Except SearchError (List (Value × Value))
  | [] => .ok []
  | v :: rest => do
    let key ← eval v
    if key.kind ≠ .string && key.kind ≠ .number then .error (.notOrdered name)
    else do
      let more ← rest.mapM fun w => do
        let k ← eval w
        if k.kind = key.kind then .ok (w, k) else .error (.notOrdered name)
      .ok ((v, key) :: more)

/-- The first item whose key no other key beats. -/
def bestBy (beats : Value → Value → Bool) (keyed : List (Value × Value)) : Value :=
  match keyed with
  | [] => .null
  | p :: rest => (rest.foldl (fun best q => if beats q.2 best.2 then q else best) p).1

/-- Items in the order of their keys; equal keys keep their order. -/
def sorted (keyed : List (Value × Value)) : List Value :=
  (keyed.mergeSort fun a b => !b.2.before a.2).map (·.1)

/-- A function applied to arguments of the right types. -/
def run (f : Function) (name : String) (eval : Expr → Value → Except SearchError Value)
    (args : List Value) : Except SearchError Value :=
  match f, args with
  | .abs, [.num n] => finite name n.toFloat.abs
  | .avg, [.arr items] => finite name (total items / Decimal.ofInt items.length)
  | .ceil, [.num n] => finite name n.toFloat.ceil
  | .contains, [.arr items, v] => .ok (.bool (items.any fun item => item.same v))
  | .contains, [.str s, .str piece] => .ok (.bool (Cut.contains piece.toList s.toList))
  | .contains, [.str _, _] => .ok (.bool false)
  | .endsWith, [.str s, .str e] => .ok (.bool (e.toList.isSuffixOf s.toList))
  | .floor, [.num n] => finite name n.toFloat.floor
  | .join, [.str glue, .arr items] => .ok (.str (glue.intercalate (items.filterMap Value.text?)))
  | .keys, [.obj members] => .ok (.arr (members.toList.map fun m => .str m.1))
  | .length, [.str s] => .ok (count s.length)
  | .length, [.arr items] => .ok (count items.length)
  | .length, [.obj members] => .ok (count members.toList.length)
  | .map, [.ref _ e, .arr items] => do
    let results ← items.mapM (eval e)
    .ok (.arr results)
  | .max, [.arr items] => .ok (largest items)
  | .maxBy, [.arr items, .ref _ e] => do
    let keyed ← orderKeys name (eval e) items
    .ok (bestBy (fun a b => b.before a) keyed)
  | .merge, objects =>
    let members := objects.flatMap fun o =>
      match o with
      | .obj members => members.toList
      | _ => []
    .ok (.obj (Dict.ofList members))
  | .min, [.arr items] => .ok (smallest items)
  | .minBy, [.arr items, .ref _ e] => do
    let keyed ← orderKeys name (eval e) items
    .ok (bestBy Value.before keyed)
  | .notNull, vs => .ok ((vs.find? fun v => !v.isNull).getD .null)
  | .reverse, [.arr items] => .ok (.arr items.reverse)
  | .reverse, [.str s] => .ok (.str (String.ofList s.toList.reverse))
  | .sort, [.arr items] => .ok (.arr (sorted (items.map fun v => (v, v))))
  | .sortBy, [.arr items, .ref _ e] => do
    let keyed ← orderKeys name (eval e) items
    .ok (.arr (sorted keyed))
  | .startsWith, [.str s, .str b] => .ok (.bool (b.toList.isPrefixOf s.toList))
  | .sum, [.arr items] => finite name (total items)
  | .toArray, [.arr items] => .ok (.arr items)
  | .toArray, [v] => .ok (.arr [v])
  | .toNumber, [.num n] => .ok (.num n)
  | .toNumber, [.str s] => .ok (((Json.parse? s).map Value.ofJson).getD .null)
  | .toNumber, [_] => .ok .null
  | .toString, [.str s] => .ok (.str s)
  | .toString, [v] => .ok (.str v.toJson.text)
  | .type, [v] => .ok (.str v.kind.name)
  | .values, [.obj members] => .ok (.arr (members.toList.map (·.2)))
  | _, _ => .error (.wrongType name)

/-- The function with a name applied to arguments, which are checked first. -/
def apply (name : String) (eval : Expr → Value → Except SearchError Value) (args : List Value) :
    Except SearchError Value :=
  match ofName? name with
  | none => .error (.unknownFunction name)
  | some f => do
    f.signature.check name args
    f.run name eval args

end Function

end CloudStub.JmesPath
