import CloudStub.Certificate.Basic
import CloudStub.Certificate.Curve
import CloudStub.Certificate.Pem

/-!
# Signing keys

A private key in its standard wrapping: a version, the identifier of the algorithm, and the key
itself.  Keys on two elliptic curves, Edwards keys and RSA keys can sign.

## Main Definitions

- `SigningKey`: what is known about the public half of a private key
- `SigningKey.ofBytes?`, `SigningKey.ofPem?`: reading
- `SigningKey.belongsTo`: whether a public key is its public half

## Design Notes

A key on a curve must carry its public point, which is computed anew and compared.  For an Edwards
key only the algorithm is kept.
-/

namespace CloudStub

/-- The public half of a private key. -/
inductive SigningKey where
  /-- A key on a curve: the algorithm and the public point. -/
  | elliptic (algorithm point : Bytes)
  /-- A key on the Edwards curve. -/
  | edwards
  /-- An RSA key. -/
  | rsa (modulus exponent : Nat)
  deriving DecidableEq, Repr

namespace SigningKey

/-- The algorithm identifiers of the curves: any curve, then the curve itself. -/
def curves : List (Bytes × Curve) :=
  [([0x06, 0x07, 0x2A, 0x86, 0x48, 0xCE, 0x3D, 0x02, 0x01,
     0x06, 0x08, 0x2A, 0x86, 0x48, 0xCE, 0x3D, 0x03, 0x01, 0x07], .p256),
   ([0x06, 0x07, 0x2A, 0x86, 0x48, 0xCE, 0x3D, 0x02, 0x01,
     0x06, 0x05, 0x2B, 0x81, 0x04, 0x00, 0x22], .p384)]

/-- How many bytes of a curve's algorithm identifier stand before the curve. -/
def curveOffset : Nat := 9

/-- The algorithm identifier of Edwards keys. -/
def edwardsAlgorithm : Bytes := [0x06, 0x03, 0x2B, 0x65, 0x70]

/-- The algorithm identifier of RSA keys. -/
def rsaAlgorithm : Bytes :=
  [0x06, 0x09, 0x2A, 0x86, 0x48, 0x86, 0xF7, 0x0D, 0x01, 0x01, 0x01, 0x05, 0x00]

/-- The point that a key on a curve declares as its public half. -/
def declaredPoint? : List Der.Node → Option Bytes
  | [point] =>
    match point.within? (Der.context 1) with
    | some [bits] => bits.bits?
    | _ => none
  | _ => none

/-- The nodes behind the name of the curve, which may be left out. -/
def dropCurve? (algorithm : Bytes) : List Der.Node → Option (List Der.Node)
  | n :: rest =>
    if n.tag = Der.context 0 then
      if n.content = algorithm.drop curveOffset then some rest else none
    else some (n :: rest)
  | [] => some []

/-- A key on a curve. -/
def elliptic? (algorithm : Bytes) (c : Curve) (content : Bytes) : Option SigningKey := do
  match ← (← Der.only? content).within? Der.sequence with
  | version :: key :: rest =>
    let scalar ← key.expect? Der.octetString
    let point ← declaredPoint? (← dropCurve? algorithm rest)
    let k := Der.natural scalar
    if version = ⟨Der.integer, [1]⟩ && scalar.length = c.size && 0 < k && k < c.order &&
        c.publicPoint k = point then some (.elliptic algorithm point)
    else none
  | _ => none

/-- A number of an RSA key: positive and without superfluous zeros. -/
def positive? (n : Der.Node) : Option Nat := do
  let bs ← n.expect? Der.integer
  match bs with
  | [] => none
  | b :: rest =>
    let superfluous := b == 0 && rest.head?.all fun c => c < 128
    if b ≥ 128 || superfluous then none else some (Der.natural bs)

/-- An RSA key: the modulus has between 2048 and 4096 bits and is the product of the primes. -/
def rsa? (content : Bytes) : Option SigningKey := do
  match ← (← Der.only? content).within? Der.sequence with
  | version :: numbers =>
    match ← numbers.mapM positive? with
    | [n, e, _, p, q, _, _, _] =>
      if version = ⟨Der.integer, [0]⟩ && p * q = n && Nat.pow 2 2047 ≤ n && n < Nat.pow 2 4096 &&
          65537 ≤ e && e < Nat.pow 2 33 && e % 2 = 1 then some (.rsa n e)
      else none
    | _ => none
  | _ => none

/-- The key of a wrapping's algorithm and contents. -/
def ofParts? (algorithm content : Bytes) : Option SigningKey :=
  if algorithm = edwardsAlgorithm then
    match (Der.only? content).bind fun n => n.expect? Der.octetString with
    | some bs => if bs.length = 32 then some .edwards else none
    | none => none
  else if algorithm = rsaAlgorithm then rsa? content
  else
    match curves.find? fun c => c.1 = algorithm with
    | some (_, c) => elliptic? algorithm c content
    | none => none

/-- The private key in a wrapping.  Attributes behind the key do not matter. -/
def ofBytes? (bs : Bytes) : Option SigningKey := do
  match ← (← Der.only? bs).within? Der.sequence with
  | version :: algorithm :: key :: rest =>
    let algorithm ← algorithm.expect? Der.sequence
    let content ← key.expect? Der.octetString
    let plain := rest.all fun n => n.tag = Der.context 0
    let edwards := algorithm = edwardsAlgorithm && version = ⟨Der.integer, [1]⟩
    if (version = ⟨Der.integer, [0]⟩ && plain && rest.length ≤ 1) || edwards then
      ofParts? algorithm content
    else none
  | _ => none

/-- The private key in the first block of a text, whatever its label. -/
def ofPem? (text : String) : Option SigningKey := do ofBytes? (← Pem.first? text).contents

/-- Whether a public key is the public half. -/
def belongsTo (k : SigningKey) (p : PublicKey) : Bool :=
  match k with
  | .elliptic algorithm point => p.algorithm = algorithm && p.bits = point
  | .edwards => p.algorithm = edwardsAlgorithm
  | .rsa modulus exponent =>
    match (Der.only? p.bits).bind fun n => n.within? Der.sequence with
    | some [n, e] => p.algorithm = rsaAlgorithm && positive? n = some modulus &&
        positive? e = some exponent
    | _ => false

end SigningKey

end CloudStub
