import CloudStub.Data.Dict
import CloudStub.Decimal.Shortest
import CloudStub.Json.Outline
import CloudStub.Text.Quoted

/-!
# Typed documents

A typed document is a JSON text whose values have to be of declared types.  It is read in the
order of the text, and the first fault is reported: a value of a wrong type is found before
malformed text that follows it.

A record is written as an object with the names of its fields, or as an array with their values in
the declared order.

## Main Definitions

- `DocumentError`: why a text is no document of a type
- `Reader`: readers of one type of values
- `Field`, `Schema`: the fields of a record
- `Schema.read`: the reader of a record
-/

namespace CloudStub

/-- Why a text is no document of a type. -/
inductive DocumentError where
  /-- The text is not JSON. -/
  | malformed
  /-- A value is of another type than expected. -/
  | wrongType (found expected : String)
  /-- An integer is outside the expected type. -/
  | outOfRange (i : Int) (expected : String)
  /-- A record has no field of this name. -/
  | unknownField (name : String) (known : List String)
  /-- A choice has no case of this name. -/
  | unknownVariant (name : String) (known : List String)
  /-- A field occurs twice. -/
  | duplicateField (name : String)
  /-- A field does not occur. -/
  | missingField (name : String)
  /-- A record written as an array ends before a field that it needs. -/
  | tooShort (length : Nat) (record : String) (size : Nat)
  /-- The values of a parameter are neither a text nor a list of texts. -/
  | noParamValues
  deriving DecidableEq, Repr

namespace DocumentError

/-- A name in the marks that messages put around names. -/
def marked (name : String) : String := "\x60" ++ name ++ "\x60"

/-- The names of which one was expected. -/
def oneOf : List String → String
  | [a] => marked a
  | [a, b] => marked a ++ " or " ++ marked b
  | names => "one of " ++ ", ".intercalate (names.map marked)

/-- The wording of an error. -/
def message : DocumentError → String
  | malformed => "not JSON"
  | wrongType found expected => "invalid type: " ++ found ++ ", expected " ++ expected
  | outOfRange i expected =>
    "invalid value: integer " ++ marked (toString i) ++ ", expected " ++ expected
  | unknownField name known => "unknown field " ++ marked name ++ ", expected " ++ oneOf known
  | unknownVariant name known => "unknown variant " ++ marked name ++ ", expected " ++ oneOf known
  | duplicateField name => "duplicate field " ++ marked name
  | missingField name => "missing field " ++ marked name
  | tooShort length record size =>
    "invalid length " ++ toString length ++ ", expected struct " ++ record ++ " with " ++
      toString size ++ " elements"
  | noParamValues => "data did not match any variant of untagged enum ParamValues"

end DocumentError

/-- A reader of one type of values. -/
abbrev Reader (α : Type) := Outline → Except DocumentError α

namespace Reader

variable {α : Type}

/-- How messages name what was found. -/
def found : Outline → String
  | .null => "null"
  | .bool b => "boolean " ++ DocumentError.marked (if b then "true" else "false")
  | .num (.int i) => "integer " ++ DocumentError.marked (toString i)
  | .num (.float x) => "floating point " ++ DocumentError.marked (Decimal.plain x)
  | .str s => "string " ++ Quoted.quote s
  | .arr _ _ => "sequence"
  | .obj _ _ => "map"
  | .broken => ""

/-- The fault of a value where another type was expected. -/
def fault (expected : String) (o : Outline) : Except DocumentError α :=
  match o with
  | .broken => .error .malformed
  | o => .error (.wrongType (found o) expected)

/-- Accepts what was read if the text went on behind it. -/
def closing (closed : Bool) (a : α) : Except DocumentError α :=
  if closed then .ok a else .error .malformed

/-- Reads a truth value. -/
def truth : Reader Bool
  | .bool b => .ok b
  | o => fault "a boolean" o

/-- Reads a text. -/
def text : Reader String
  | .str s => .ok s
  | o => fault "a string" o

/-- Reads a natural number of some bits. -/
def natural (bits : Nat) : Reader Nat
  | .num (.int i) =>
    if 0 ≤ i && i < Int.pow 2 bits then .ok i.toNat
    else .error (.outOfRange i ("u" ++ toString bits))
  | o => fault ("u" ++ toString bits) o

/-- Reads a null value. -/
def unit : Reader Unit
  | .null => .ok ()
  | o => fault "unit" o

/-- Reads any value. -/
def json : Reader Json := fun o => if o.isWhole then .ok o.toJson else .error .malformed

/-- Reads a value or null. -/
def optional (read : Reader α) : Reader (Option α)
  | .null => .ok none
  | o => (read o).map some

/-- Reads a list of values. -/
def list (read : Reader α) : Reader (List α)
  | .arr items closed => do closing closed (← items.mapM read)
  | o => fault "a sequence" o

/-- Reads the values of an object; of several values for one key the last counts. -/
def table (read : Reader α) : Reader (Dict α)
  | .obj members closed => do
    closing closed (Dict.ofList (← members.mapM fun m => (read m.2).map (m.1, ·)))
  | o => fault "a map" o

/-- Reads the name of a case, written as a text or as the only key of an object with a null
value. -/
def variant (cases : List (String × α)) : Reader α
  | .str s => find s
  | .obj ((name, o) :: rest) closed => do
    let a ← find name
    unit o
    closing (closed && rest.isEmpty) a
  | _ => .error .malformed
where
  /-- The case of a name. -/
  find (name : String) : Except DocumentError α :=
    match Entries.get? name cases with
    | some a => .ok a
    | none => .error (.unknownVariant name (cases.map (·.1)))

/-- The texts of a list of texts. -/
def texts? : List Outline → Option (List String)
  | [] => some []
  | .str s :: rest => (texts? rest).map (s :: ·)
  | _ :: _ => none

/-- Reads the values of a parameter: one text, or a list of texts. -/
def paramValues : Reader (List String) := fun o =>
  if !o.isWhole then .error .malformed
  else
    match o with
    | .str s => .ok [s]
    | .arr items _ =>
      match texts? items with
      | some values => .ok values
      | none => .error .noParamValues
    | _ => .error .noParamValues

end Reader

/-- A field of a record. -/
structure Field (σ : Type) where
  /-- The name of the field. -/
  name : String
  /-- Whether an object must have the field. -/
  required : Bool
  /-- Whether an array may end before the field. -/
  trailing : Bool
  /-- Reads the field into a record. -/
  read : Outline → σ → Except DocumentError σ

namespace Field

variable {σ α : Type}

/-- A field that an object may lack and an array may end before. -/
def defaulted (name : String) (read : Reader α) (set : σ → α → σ) : Field σ :=
  ⟨name, false, true, fun o r => (read o).map (set r)⟩

/-- A field that an object may lack. -/
def nullable (name : String) (read : Reader α) (set : σ → Option α → σ) : Field σ :=
  ⟨name, false, false, fun o r => (read.optional o).map (set r)⟩

/-- A field that must be there. -/
def mandatory (name : String) (read : Reader α) (set : σ → α → σ) : Field σ :=
  ⟨name, true, false, fun o r => (read o).map (set r)⟩

end Field

/-- The fields of a record. -/
structure Schema (σ : Type) where
  /-- The name of the record. -/
  name : String
  /-- The record before anything is read. -/
  start : σ
  /-- The fields in order. -/
  fields : List (Field σ)

namespace Schema

variable {σ : Type}

/-- The names of the fields. -/
def fieldNames (s : Schema σ) : List String := s.fields.map (·.name)

/-- Reads the members of an object, given the names that occurred. -/
def readMembers (s : Schema σ) :
    List String → σ → List (String × Outline) → Except DocumentError (List String × σ)
  | seen, r, [] => .ok (seen, r)
  | seen, r, (name, o) :: rest =>
    match s.fields.find? fun f => f.name == name with
    | none => .error (.unknownField name s.fieldNames)
    | some f =>
      if seen.contains name then .error (.duplicateField name)
      else do
        let r ← f.read o r
        readMembers s (name :: seen) r rest

/-- Reads the values of an array into the fields that are left, given how many were read. -/
def readValues (s : Schema σ) (closed : Bool) :
    Nat → σ → List (Field σ) → List Outline → Except DocumentError σ
  | _, r, [], items => Reader.closing (closed && items.isEmpty) r
  | i, r, f :: fields, [] =>
    if !closed then .error .malformed
    else if f.trailing then readValues s closed (i + 1) r fields []
    else .error (.tooShort i s.name s.fields.length)
  | i, r, f :: fields, o :: items => do
    let r ← f.read o r
    readValues s closed (i + 1) r fields items

/-- The first field that must occur and did not. -/
def missing? (s : Schema σ) (seen : List String) : Option (Field σ) :=
  s.fields.find? fun f => f.required && !seen.contains f.name

/-- The reader of a record. -/
def read (s : Schema σ) : Reader σ
  | .obj members closed => do
    let (seen, r) ← s.readMembers [] s.start members
    let r ← Reader.closing closed r
    match s.missing? seen with
    | some f => .error (.missingField f.name)
    | none => .ok r
  | .arr items closed => s.readValues closed 0 s.start s.fields items
  | o => Reader.fault ("struct " ++ s.name) o

/-- The record that a text holds. -/
def parse (s : Schema σ) (text : String) : Except DocumentError σ := do
  let (outline, rest) := Outline.ofText text
  let r ← s.read outline
  match rest with
  | some rest => Reader.closing (Outline.dropBlank rest).isEmpty r
  | none => .error .malformed

end Schema

end CloudStub
