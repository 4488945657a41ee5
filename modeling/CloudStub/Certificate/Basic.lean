import CloudStub.Certificate.Name
import CloudStub.Data.Moment
import CloudStub.Http.Address

/-!
# Certificates

What a certificate says about its owner: the name, the serial number, the end of its validity, the
public key, and whether the owner may issue certificates.

## Main Definitions

- `Moment.ofNode?`: the moment that a tagged value spells
- `PublicKey`: an algorithm and the bits of a key
- `Certificate`: the fields of a certificate
- `Certificate.ofBytes?`: the certificate at the front of a byte sequence
- `Certificate.isAuthority`: whether the owner may issue certificates
-/

namespace CloudStub

namespace Moment

/-- Reads pairs of digits. -/
def pairs? : List Char → Option (List Nat)
  | [] => some []
  | [_] => none
  | a :: b :: rest => do
    let n ← Http.decimal? [a, b]
    let ns ← pairs? rest
    some (n :: ns)

/-- The years that two digits stand for: those from 1950 to 2049. -/
def century (year : Nat) : Nat := if year < 50 then 2000 + year else 1900 + year

/-- The moment of a tagged value: a date with two or four digits for the year, and a time of day
in universal time. -/
def ofNode? (n : Der.Node) : Option Moment :=
  let cs := n.content.map fun b => Char.ofNat b.toNat
  if cs.getLast? != some 'Z' then none
  else
    match n.tag, pairs? cs.dropLast with
    | 0x17, some [y, mo, d, h, mi] => ofDate? (century y) mo d h mi 0
    | 0x17, some [y, mo, d, h, mi, s] => ofDate? (century y) mo d h mi s
    | 0x18, some [c, y, mo, d, h, mi] => ofDate? (c * 100 + y) mo d h mi 0
    | 0x18, some [c, y, mo, d, h, mi, s] => ofDate? (c * 100 + y) mo d h mi s
    | _, _ => none

end Moment

/-- A public key. -/
structure PublicKey where
  /-- The contents of the algorithm identifier. -/
  algorithm : Bytes
  /-- The bits of the key. -/
  bits : Bytes
  deriving DecidableEq, Repr

/-- An extension of a certificate. -/
structure Extension where
  /-- The object identifier of the extension. -/
  type : List Nat
  /-- The bytes of its value. -/
  value : Bytes
  deriving DecidableEq, Repr

/-- A certificate. -/
structure Certificate where
  /-- The bytes of the serial number. -/
  serial : Bytes
  /-- The name of the issuer. -/
  issuer : DistinguishedName
  /-- The start of the validity. -/
  notBefore : Moment
  /-- The end of the validity. -/
  notAfter : Moment
  /-- The name of the owner. -/
  subject : DistinguishedName
  /-- The key of the owner. -/
  publicKey : PublicKey
  /-- The extensions in order. -/
  extensions : List Extension
  deriving DecidableEq, Repr

namespace Certificate

/-- The public key of a tagged value. -/
def publicKey? (n : Der.Node) : Option PublicKey :=
  match n.within? Der.sequence with
  | some (algorithm :: key :: _) => do
    let bits ← key.bits?
    some ⟨← algorithm.expect? Der.sequence, bits⟩
  | _ => none

/-- The extension of a tagged value, which may say that it is critical. -/
def extension? (n : Der.Node) : Option Extension :=
  match n.within? Der.sequence with
  | some [type, value] => extensionOf type value
  | some [type, critical, value] =>
    if critical.tag = Der.boolean then extensionOf type value else none
  | _ => none
where
  /-- The extension with a type and a value. -/
  extensionOf (type value : Der.Node) : Option Extension := do
    some ⟨Der.identifier (← type.expect? Der.objectIdentifier), ← value.expect? Der.octetString⟩

/-- The extensions at the end of a certificate, behind the unique identifiers. -/
def extensions? (nodes : List Der.Node) : Option (List Extension) :=
  match nodes.filter fun n => n.tag != 0x81 && n.tag != 0x82 with
  | [] => some []
  | n :: _ =>
    match n.within? (Der.context 3) with
    | some [list] => do (← list.within? Der.sequence).mapM extension?
    | _ => none

/-- The fields of a certificate behind its version. -/
def ofFields? : List Der.Node → Option Certificate
  | serial :: signature :: issuer :: validity :: subject :: key :: rest => do
    let serial ← serial.expect? Der.integer
    let _ ← signature.expect? Der.sequence
    let issuer ← DistinguishedName.ofNode? issuer
    match ← validity.within? Der.sequence with
    | [start, stop] =>
      let notBefore ← Moment.ofNode? start
      let notAfter ← Moment.ofNode? stop
      let subject ← DistinguishedName.ofNode? subject
      let publicKey ← publicKey? key
      let extensions ← extensions? rest
      some { serial, issuer, notBefore, notAfter, subject, publicKey, extensions }
    | _ => none
  | _ => none

/-- The fields behind the version, which the first version of the format leaves out. -/
def dropVersion : List Der.Node → List Der.Node
  | n :: rest => if n.tag = Der.context 0 then rest else n :: rest
  | [] => []

/-- The certificate at the front of a byte sequence. -/
def ofBytes? (bs : Bytes) : Option Certificate := do
  let (node, _) ← Der.read bs
  match ← node.within? Der.sequence with
  | body :: algorithm :: signature :: _ =>
    let _ ← algorithm.expect? Der.sequence
    let _ ← signature.expect? Der.bitString
    ofFields? (dropVersion (← body.within? Der.sequence))
  | _ => none

/-- The value of an extension that occurs once. -/
def extension (c : Certificate) (type : List Nat) : Option Bytes :=
  match c.extensions.filter fun e => e.type == type with
  | [e] => some e.value
  | _ => none

/-- Whether the value of the basic constraints grants the right to issue. -/
def grantsIssuing (value : Bytes) : Bool :=
  match (Der.only? value).bind fun n => n.within? Der.sequence with
  | some (n :: _) => n.tag == Der.boolean && n.content == [0xFF]
  | _ => false

/-- Whether the owner may issue certificates: the basic constraints say so. -/
def isAuthority (c : Certificate) : Bool :=
  ((c.extension [2, 5, 29, 19]).map grantsIssuing).getD false

/-- The serial number as pairs of hexadecimal digits. -/
def serialText (c : Certificate) : String :=
  ":".intercalate (c.serial.map fun b => String.ofList (Bytes.hexDigits b))

end Certificate

end CloudStub
