/-!
# Bytes

Bodies and header values are sequences of bytes.  This module fixes their type and the few
questions about ASCII that are asked of bytes directly.

## Main Definitions

- `Bytes`: a sequence of bytes
- `Bytes.isBlank`, `Bytes.dropBlank`: ASCII white space
- `Bytes.lower`: ASCII lower case
- `Bytes.hexDigits`: the hexadecimal form of a byte
- `Bytes.split`: the parts between occurrences of a byte
-/

namespace CloudStub

/-- A sequence of bytes. -/
abbrev Bytes := List UInt8

namespace Bytes

/-- ASCII white space: space, tab, line feed, form feed and carriage return. -/
def isBlank (b : UInt8) : Bool :=
  b == 32 || b == 9 || b == 10 || b == 12 || b == 13

/-- Drops the ASCII white space at the front. -/
def dropBlank (bs : Bytes) : Bytes := bs.dropWhile isBlank

/-- The lowercase form of an ASCII capital; any other byte as it is. -/
def lower (b : UInt8) : UInt8 :=
  if 65 ≤ b && b ≤ 90 then b + 32 else b

/-- Whether `bs` begins with `start`, with ASCII letters compared without regard to case. -/
def startsWithIgnoreCase (start bs : Bytes) : Bool :=
  (start.map lower).isPrefixOf (bs.map lower)

/-- A byte as two hexadecimal digits. -/
def hexDigits (b : UInt8) : List Char :=
  [Nat.digitChar (b.toNat / 16), Nat.digitChar (b.toNat % 16)]

/-- The parts between occurrences of a byte. -/
def split (sep : UInt8) : Bytes → List Bytes
  | [] => [[]]
  | b :: rest =>
    if b = sep then [] :: split sep rest
    else
      match split sep rest with
      | part :: parts => (b :: part) :: parts
      | [] => [[b]]

end Bytes

end CloudStub
