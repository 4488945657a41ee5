import CloudStub.JmesPath.Expr
import CloudStub.Json.Text

/-!
# Values of path expressions

Path expressions compute with JSON values and with expressions, which functions apply to the items
of an array.

Numbers are equal when they differ by less than the relative precision of floating-point numbers;
integers take part in every comparison as floating-point numbers.

## Main Definitions

- `JmesPath.Value`: a JSON value or an expression
- `Value.holds`: whether a value counts as true
- `Value.same`: equality
- `Value.before`: the order of strings and of numbers
- `Value.compare`: the comparisons
-/

namespace CloudStub.JmesPath

/-- A value of a path expression. -/
inductive Value where
  /-- The null value. -/
  | null
  /-- A truth value. -/
  | bool (b : Bool)
  /-- A number. -/
  | num (n : Json.Number)
  /-- A text. -/
  | str (s : String)
  /-- An array. -/
  | arr (items : List Value)
  /-- An object. -/
  | obj (members : Dict.Behind Value none)
  /-- An expression, with the mark of its place in the text. -/
  | ref (mark : Nat) (e : Expr)
  deriving Inhabited

/-- The types of values. -/
inductive Kind where
  /-- Null. -/
  | null
  /-- Truth values. -/
  | boolean
  /-- Numbers. -/
  | number
  /-- Texts. -/
  | string
  /-- Arrays. -/
  | array
  /-- Objects. -/
  | object
  /-- Expressions. -/
  | expref
  deriving DecidableEq, Repr

/-- The name of a type. -/
def Kind.name : Kind → String
  | .null => "null"
  | .boolean => "boolean"
  | .number => "number"
  | .string => "string"
  | .array => "array"
  | .object => "object"
  | .expref => "expref"

namespace Value

mutual

/-- A JSON value as a value. -/
def ofJson : Json → Value
  | .null => .null
  | .bool b => .bool b
  | .num n => .num n
  | .str s => .str s
  | .arr items => .arr (ofItems items)
  | .obj members => .obj (ofMembers members)

/-- The items of an array as values. -/
def ofItems : List Json → List Value
  | [] => []
  | v :: rest => ofJson v :: ofItems rest

/-- The members of an object as values. -/
def ofMembers {start : Option String} : Dict.Behind Json start → Dict.Behind Value start
  | .nil => .nil
  | .cons k v behind rest => .cons k (ofJson v) behind (ofMembers rest)

end

/-- The text that stands for an expression in JSON. -/
def refText : String := "<expression>"

mutual

/-- A value as a JSON value; an expression becomes a text. -/
def toJson : Value → Json
  | .null => .null
  | .bool b => .bool b
  | .num n => .num n
  | .str s => .str s
  | .arr items => .arr (itemsToJson items)
  | .obj members => .obj (membersToJson members)
  | .ref _ _ => .str refText

/-- The items of an array as JSON values. -/
def itemsToJson : List Value → List Json
  | [] => []
  | v :: rest => toJson v :: itemsToJson rest

/-- The members of an object as JSON values. -/
def membersToJson {start : Option String} : Dict.Behind Value start → Dict.Behind Json start
  | .nil => .nil
  | .cons k v behind rest => .cons k (toJson v) behind (membersToJson rest)

end

/-- The type of a value. -/
def kind : Value → Kind
  | .null => .null
  | .bool _ => .boolean
  | .num _ => .number
  | .str _ => .string
  | .arr _ => .array
  | .obj _ => .object
  | .ref _ _ => .expref

/-- Whether a value is null. -/
def isNull : Value → Bool
  | .null => true
  | _ => false

/-- The items of an array. -/
def items? : Value → Option (List Value)
  | .arr items => some items
  | _ => none

/-- The floating-point number of a number. -/
def float? : Value → Option Float
  | .num n => some n.toFloat
  | _ => none

/-- The text of a text. -/
def text? : Value → Option String
  | .str s => some s
  | _ => none

/-- Whether a value counts as true: numbers do, and so does whatever is not empty. -/
def holds : Value → Bool
  | .bool b => b
  | .str s => !s.isEmpty
  | .arr items => !items.isEmpty
  | .obj members => !members.isEmpty
  | .num _ => true
  | .null => false
  | .ref _ _ => false

/-- The relative precision of floating-point numbers. -/
def precision : Float := Float.ofBits 0x3CB0000000000000

/-- Whether a finite number is neither zero nor too small for full precision. -/
def isNormal (x : Float) : Bool := Binary.exponentField x != 0

/-- Equality of finite numbers up to the relative precision. -/
def sameFloat (a b : Float) : Bool :=
  a == b || (isNormal a && isNormal b && (a - b).abs / (a.abs + b.abs) < precision)

mutual

/-- Equality of values.  Expressions are equal when they stand in the same place. -/
def same : Value → Value → Bool
  | .null, .null => true
  | .bool a, .bool b => a == b
  | .num a, .num b => sameFloat a.toFloat b.toFloat
  | .str a, .str b => a == b
  | .arr a, .arr b => sameItems a b
  | .obj a, .obj b => sameMembers a b
  | .ref a _, .ref b _ => a == b
  | _, _ => false

/-- Equality of the items of arrays. -/
def sameItems : List Value → List Value → Bool
  | [], [] => true
  | a :: as, b :: bs => same a b && sameItems as bs
  | _, _ => false

/-- Equality of the members of objects. -/
def sameMembers {s t : Option String} : Dict.Behind Value s → Dict.Behind Value t → Bool
  | .nil, .nil => true
  | .cons k a _ as, .cons l b _ bs => k == l && same a b && sameMembers as bs
  | _, _ => false

end

/-- The order of strings and of numbers; values of any other type, or of different types, are not
ordered. -/
def before : Value → Value → Bool
  | .num a, .num b => a.toFloat < b.toFloat
  | .str a, .str b => a < b
  | _, _ => false

/-- Numbers compared by an order; other values have no order here. -/
def compareNumbers (less : Float → Float → Bool) (a b : Value) : Value :=
  match a.float?, b.float? with
  | some x, some y => .bool (less x y)
  | _, _ => .null

/-- The comparisons.  Everything can be equal, but only numbers are ordered. -/
def compare (c : Comparison) (a b : Value) : Value :=
  match c with
  | .eq => .bool (same a b)
  | .ne => .bool (!same a b)
  | .lt => compareNumbers (fun x y => x < y) a b
  | .le => compareNumbers (fun x y => x ≤ y) a b
  | .gt => compareNumbers (fun x y => y < x) a b
  | .ge => compareNumbers (fun x y => y ≤ x) a b

end Value

end CloudStub.JmesPath
