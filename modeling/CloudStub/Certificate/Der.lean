import CloudStub.Text.Bytes

/-!
# Tagged values

Certificates and keys are trees of tagged values: an identifier octet, a length, and the contents.
The contents of a constructed value are again such values, one behind the other.

## Main Definitions

- `Der.Node`: one value
- `Der.read`: the value at the front of a byte sequence
- `Der.Node.children?`: the values inside a value
- `Der.natural`, `Der.identifier`: the contents of numbers and object identifiers
-/

namespace CloudStub.Der

/-- A value. -/
structure Node where
  /-- The identifier octet. -/
  tag : UInt8
  /-- The contents. -/
  content : Bytes
  deriving DecidableEq, Repr

/-- The identifier octet of truth values. -/
def boolean : UInt8 := 0x01

/-- The identifier octet of integers. -/
def integer : UInt8 := 0x02

/-- The identifier octet of bit strings. -/
def bitString : UInt8 := 0x03

/-- The identifier octet of octet strings. -/
def octetString : UInt8 := 0x04

/-- The identifier octet of object identifiers. -/
def objectIdentifier : UInt8 := 0x06

/-- The identifier octet of sequences. -/
def sequence : UInt8 := 0x30

/-- The identifier octet of sets. -/
def set : UInt8 := 0x31

/-- The identifier octet of the constructed value with a number that its context gives. -/
def context (n : Nat) : UInt8 := UInt8.ofNat (0xA0 + n)

/-- The number that bytes spell, the most significant first. -/
def natural (bs : Bytes) : Nat := bs.foldl (fun n b => n * 256 + b.toNat) 0

/-- A length and what follows it.  Lengths are definite and have at most four bytes. -/
def readLength : Bytes → Option (Nat × Bytes)
  | [] => none
  | b :: rest =>
    if b < 128 then some (b.toNat, rest)
    else
      let n := b.toNat - 128
      if n = 0 || n > 4 || rest.length < n then none
      else some (natural (rest.take n), rest.drop n)

/-- The value at the front of a byte sequence and what follows it. -/
def read : Bytes → Option (Node × Bytes)
  | [] => none
  | tag :: rest => do
    let (n, rest) ← readLength rest
    if tag % 32 = 31 || rest.length < n then none
    else some (⟨tag, rest.take n⟩, rest.drop n)

/-- The values of a byte sequence, at most `fuel` of them. -/
def readAll : Nat → Bytes → Option (List Node)
  | _, [] => some []
  | 0, _ :: _ => none
  | fuel + 1, bs => do
    let (node, rest) ← read bs
    let nodes ← readAll fuel rest
    some (node :: nodes)

/-- The only value of a byte sequence. -/
def only? (bs : Bytes) : Option Node :=
  match read bs with
  | some (node, []) => some node
  | _ => none

namespace Node

/-- The value's contents if it has a tag. -/
def expect? (n : Node) (tag : UInt8) : Option Bytes := if n.tag = tag then some n.content else none

/-- The values inside a value. -/
def children? (n : Node) : Option (List Node) := readAll n.content.length n.content

/-- The values inside a value that has a tag. -/
def within? (n : Node) (tag : UInt8) : Option (List Node) :=
  if n.tag = tag then n.children? else none

/-- The bytes of a bit string that fills them. -/
def bits? (n : Node) : Option Bytes :=
  match n.expect? bitString with
  | some (0 :: bytes) => some bytes
  | _ => none

end Node

/-- The numbers of an object identifier behind the first byte; `n` is the number read so far. -/
def arcs (n : Nat) : Bytes → List Nat
  | [] => []
  | b :: rest =>
    if b < 128 then (n * 128 + b.toNat) :: arcs 0 rest
    else arcs (n * 128 + (b.toNat - 128)) rest

/-- The numbers of an object identifier.  The first two share the first number of its contents. -/
def identifier (content : Bytes) : List Nat :=
  match arcs 0 content with
  | [] => []
  | n :: rest => if n < 80 then n / 40 :: n % 40 :: rest else 2 :: (n - 80) :: rest

end CloudStub.Der
