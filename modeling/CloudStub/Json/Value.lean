import CloudStub.Data.Dict
import CloudStub.Decimal.Binary

/-!
# JSON values

A JSON value keeps the two kinds of numbers apart: integers that fit a machine word, and
floating-point numbers.  The members of an object are a dictionary.

## Main Definitions

- `Json.Number`: an integer or a floating-point number
- `Json`: a JSON value
- `Json.ofMembers`: an object from its members in any order
-/

namespace CloudStub

/-- A JSON number. -/
inductive Json.Number where
  /-- An integer between `-2 ^ 63` and `2 ^ 64 - 1`. -/
  | int (i : Int)
  /-- A finite floating-point number. -/
  | float (x : Float)
  deriving BEq, Inhabited, Repr

namespace Json.Number

/-- The number as a floating-point number. -/
def toFloat : Number → Float
  | .int i => Decimal.ofInt i
  | .float x => x

end Json.Number

/-- A JSON value. -/
inductive Json where
  /-- The null value. -/
  | null
  /-- A truth value. -/
  | bool (b : Bool)
  /-- A number. -/
  | num (n : Json.Number)
  /-- A text. -/
  | str (s : String)
  /-- An array. -/
  | arr (items : List Json)
  /-- An object. -/
  | obj (members : Dict.Behind Json none)
  deriving Inhabited

namespace Json

mutual

/-- Equality of values.  An integer and a floating-point number are different. -/
def same : Json → Json → Bool
  | .null, .null => true
  | .bool a, .bool b => a == b
  | .num a, .num b => a == b
  | .str a, .str b => a == b
  | .arr a, .arr b => sameItems a b
  | .obj a, .obj b => sameMembers a b
  | _, _ => false

/-- Equality of the items of arrays. -/
def sameItems : List Json → List Json → Bool
  | [], [] => true
  | a :: as, b :: bs => same a b && sameItems as bs
  | _, _ => false

/-- Equality of the members of objects. -/
def sameMembers {s t : Option String} : Dict.Behind Json s → Dict.Behind Json t → Bool
  | .nil, .nil => true
  | .cons k a _ as, .cons l b _ bs => k == l && same a b && sameMembers as bs
  | _, _ => false

end

instance : BEq Json := ⟨same⟩

/-- An object from its members in any order; of several values for one key the last counts. -/
def ofMembers (members : List (String × Json)) : Json := .obj (Dict.ofList members)

/-- The value of a key, when the value is an object that has it. -/
def field? (v : Json) (key : String) : Option Json :=
  match v with
  | .obj members => members.get? key
  | _ => none

/-- An integer. -/
def ofInt (i : Int) : Json := .num (.int i)

end Json

end CloudStub
