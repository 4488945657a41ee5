import CloudStub.Authority.Root
import CloudStub.Data.Dict

/-!
# Certificate authorities

An authority issues one certificate for each host name that it is asked for, and returns the same
certificate when it is asked again.  All authorities take their serial numbers from one counter.

## Main Definitions

- `AltName`, `Leaf`: an issued certificate and the name that it is for
- `Authority`: a root with the certificates issued so far
- `Authority.fetch`: the certificate for a host name
-/

namespace CloudStub

/-- The name that a certificate is for. -/
inductive AltName where
  /-- A host name. -/
  | dns (name : String)
  /-- An address. -/
  | address (a : Http.IpAddress)
  deriving DecidableEq, Repr

/-- What the key of a certificate may be used for. -/
inductive KeyUsage where
  /-- Signing messages. -/
  | digitalSignature
  /-- Encrypting keys. -/
  | keyEncipherment
  deriving DecidableEq, Repr

/-- The shown form of a usage. -/
def KeyUsage.text : KeyUsage → String
  | digitalSignature => "Digital Signature"
  | keyEncipherment => "Key Encipherment"

/-- Whom a certificate may identify. -/
inductive Purpose where
  /-- A server. -/
  | server
  /-- A client. -/
  | client
  deriving DecidableEq, Repr

/-- An issued certificate. -/
structure Leaf where
  /-- The serial number. -/
  serial : Nat
  /-- The name of the owner. -/
  subject : DistinguishedName
  /-- The name of the issuer. -/
  issuer : DistinguishedName
  /-- The name that the certificate is for. -/
  altName : AltName
  deriving DecidableEq, Repr

namespace Leaf

/-- The number that stands for the version of the format: two stands for the third version. -/
def version : Nat := 2

/-- How many seconds a certificate is valid: from thirty days before its authority was made to a
year after. -/
def validity : Nat := (30 + 365) * 86400

/-- What the key may be used for. -/
def usages : List KeyUsage := [.digitalSignature, .keyEncipherment]

/-- Whom the certificate may identify. -/
def purposes : List Purpose := [.server]

/-- Issued certificates do not issue others. -/
def isAuthority : Bool := false

end Leaf

/-- A host name that cannot be put into a certificate. -/
structure InvalidHostname where
  /-- The host name. -/
  name : String
  deriving DecidableEq, Repr

/-- The wording of the error. -/
def InvalidHostname.message (e : InvalidHostname) : String :=
  "Invalid hostname: " ++ Quoted.quote e.name

/-- A root with the certificates issued so far. -/
structure Authority where
  /-- The root. -/
  root : Root
  /-- The certificates issued so far, under the host names for which they were issued. -/
  issued : Dict Leaf

namespace Authority

/-- The authority that has issued nothing. -/
def new (root : Root) : Authority := ⟨root, .empty⟩

/-- The number of certificates issued so far. -/
def size (a : Authority) : Nat := a.issued.toList.length

/-- The attributes that all owners share. -/
def owner : List (String × String) :=
  [("C", "US"), ("O", "cloudmock"), ("OU", "cloudmock fake leaf")]

/-- The name that a certificate for a host name is for.  A host name that is no address must be
ASCII. -/
def altName (host : String) : Except InvalidHostname AltName :=
  match Http.IpAddress.ofText? host with
  | some a => .ok (.address a)
  | none => if Ascii.isText host then .ok (.dns host) else .error ⟨host⟩

/-- The name of an owner: host names are also common names. -/
def subject : AltName → DistinguishedName
  | .dns name => .ofTexts (owner ++ [("CN", name)])
  | .address _ => .ofTexts owner

/-- The certificate for a host name with a serial number. -/
def issue (a : Authority) (serial : Nat) (host : String) : Except InvalidHostname Leaf := do
  let name ← altName host
  .ok ⟨serial, subject name, a.root.issuer, name⟩

/-- The certificate for a host name, the authority behind the request, and the counter behind it.
The counter holds the last serial number that was given out. -/
def fetch (a : Authority) (counter : Nat) (host : String) :
    Except InvalidHostname (Leaf × Authority × Nat) :=
  match a.issued.get? host with
  | some leaf => .ok (leaf, a, counter)
  | none => do
    let leaf ← a.issue (counter + 1) host
    .ok (leaf, { a with issued := a.issued.insert host leaf }, counter + 1)

end Authority

end CloudStub
