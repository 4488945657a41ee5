import CloudStub.Certificate.Der
import CloudStub.Text.Utf8

/-!
# Distinguished names

The names of certificate owners: a sequence of attributes such as a country, an organisation and
a common name.  Attributes that belong together share a part of the name.

## Main Definitions

- `Attribute`: a typed value
- `DistinguishedName`: the parts of a name
- `DistinguishedName.text?`: the shown form, such as `C=US, O=cloudmock`
- `DistinguishedName.issuing?`: the name that issued certificates carry
-/

namespace CloudStub

/-- A typed value in a name. -/
structure Attribute where
  /-- The object identifier of the type. -/
  type : List Nat
  /-- The kind of the value, as an identifier octet. -/
  kind : UInt8
  /-- The bytes of the value. -/
  value : Bytes
  deriving DecidableEq, Repr

namespace Attribute

/-- The kind of values in UTF-8. -/
def utf8 : UInt8 := 0x0C

/-- The types with a short label. -/
def labels : List (List Nat × String) :=
  [([2, 5, 4, 3], "CN"), ([2, 5, 4, 6], "C"), ([2, 5, 4, 7], "L"), ([2, 5, 4, 8], "ST"),
   ([2, 5, 4, 10], "O"), ([2, 5, 4, 11], "OU"),
   ([0, 9, 2342, 19200300, 100, 1, 25], "DC"), ([1, 2, 840, 113549, 1, 9, 1], "Email"),
   ([2, 5, 4, 4], "surname"), ([2, 5, 4, 5], "serialNumber"), ([2, 5, 4, 9], "streetAddress"),
   ([2, 5, 4, 12], "title"), ([2, 5, 4, 13], "description"),
   ([2, 5, 4, 15], "businessCategory"), ([2, 5, 4, 17], "postalCode"), ([2, 5, 4, 41], "name"),
   ([2, 5, 4, 42], "givenName"), ([2, 5, 4, 43], "initials"),
   ([2, 5, 4, 44], "generationQualifier"), ([2, 5, 4, 46], "dnQualifier")]

/-- The type with a label. -/
def typeOf (label : String) : List Nat :=
  match labels.find? fun l => l.2 == label with
  | some l => l.1
  | none => []

/-- The label of the attribute's type; a type without a label shows its number. -/
def label (a : Attribute) : String :=
  match labels.find? fun l => l.1 == a.type with
  | some l => l.2
  | none => "OID(" ++ ".".intercalate (a.type.map toString) ++ ")"

/-- The kinds whose bytes are shown as text. -/
def textKinds : List UInt8 :=
  [0x07, 0x0C, 0x12, 0x13, 0x14, 0x15, 0x16, 0x19, 0x1A, 0x1B, 0x1E]

/-- The kinds that may stand in the name of an issuer. -/
def issuerKinds : List UInt8 := [0x0C, 0x13, 0x14, 0x16, 0x1C, 0x1E]

/-- The shown form of the value, unless its bytes should be text and are not. -/
def valueText? (a : Attribute) : Option String :=
  if textKinds.contains a.kind then Utf8.decode? a.value
  else some (String.ofList ((a.value.flatMap Bytes.hexDigits).map Char.toUpper))

/-- The shown form of the attribute. -/
def text? (a : Attribute) : Option String := a.valueText?.map fun v => a.label ++ "=" ++ v

/-- The attribute with a label and a text. -/
def ofText (label value : String) : Attribute := ⟨typeOf label, utf8, Utf8.encode value⟩

/-- The attribute of a tagged value. -/
def ofNode? (n : Der.Node) : Option Attribute :=
  match n.within? Der.sequence with
  | some [type, value] =>
    (type.expect? Der.objectIdentifier).map fun t => ⟨Der.identifier t, value.tag, value.content⟩
  | _ => none

end Attribute

/-- A name: its parts, each of attributes that belong together. -/
structure DistinguishedName where
  /-- The parts. -/
  parts : List (List Attribute)
  deriving DecidableEq, Repr

namespace DistinguishedName

/-- The name with one attribute in each part. -/
def ofTexts (attributes : List (String × String)) : DistinguishedName :=
  ⟨attributes.map fun a => [.ofText a.1 a.2]⟩

/-- The name of a tagged value. -/
def ofNode? (n : Der.Node) : Option DistinguishedName := do
  let sets ← n.within? Der.sequence
  let parts ← sets.mapM fun s => do (← s.within? Der.set).mapM Attribute.ofNode?
  some ⟨parts⟩

/-- The shown form, unless a value that should be text is not. -/
def text? (n : DistinguishedName) : Option String := do
  let parts ← n.parts.mapM fun part => do
    some (" + ".intercalate (← part.mapM Attribute.text?))
  some (", ".intercalate parts)

/-- The shown form, or a remark in place of it. -/
def text (n : DistinguishedName) : String := n.text?.getD "<X509Error: Invalid X.509 name>"

/-- Puts the value of an attribute in the place of its type; a new type comes last. -/
def place (a : Attribute) : List Attribute → List Attribute
  | [] => [a]
  | b :: rest => if b.type = a.type then a :: rest else b :: place a rest

/-- The only attribute of each part, unless a part has another number of them or a kind that an
issuer cannot have. -/
def single? : List Attribute → Option Attribute
  | [a] => if Attribute.issuerKinds.contains a.kind then some a else none
  | _ => none

/-- The name that issued certificates carry: every type once, with its last value, in the order
of first occurrence. -/
def issuing? (n : DistinguishedName) : Option DistinguishedName := do
  let attributes ← n.parts.mapM single?
  some ⟨(attributes.foldl (fun placed a => place a placed) []).map fun a => [a]⟩

end DistinguishedName

end CloudStub
