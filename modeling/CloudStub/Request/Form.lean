import CloudStub.Data.Dict
import CloudStub.Text.Utf8

/-!
# Form data

Form bodies and query strings are sequences of pairs between ampersands.  A plus sign stands for a
space and a percent sign with two hexadecimal digits for a byte; any other percent sign stands for
itself.  What the bytes of a name or value do not spell in UTF-8 reads as replacement characters.

## Main Definitions

- `Form.pairs`: the decoded pairs, in order
- `Params`: the values of each name
- `Params.append`: adds decoded pairs
-/

namespace CloudStub

namespace Form

/-- The value of a hexadecimal digit. -/
def hexValue? (b : UInt8) : Option UInt8 :=
  if 48 ≤ b && b ≤ 57 then some (b - 48)
  else if 65 ≤ b && b ≤ 70 then some (b - 55)
  else if 97 ≤ b && b ≤ 102 then some (b - 87)
  else none

/-- Replaces percent signs that two hexadecimal digits follow by the byte they spell. -/
def percentDecode : Bytes → Bytes
  | 37 :: a :: b :: rest =>
    match hexValue? a, hexValue? b with
    | some x, some y => (x * 16 + y) :: percentDecode rest
    | _, _ => 37 :: percentDecode (a :: b :: rest)
  | b :: rest => b :: percentDecode rest
  | [] => []

/-- The text of an encoded name or value. -/
def decodeText (bs : Bytes) : String :=
  Utf8.decodeLossy (percentDecode (bs.map fun b => if b = 43 then 32 else b))

/-- The pair of one part: name and value around the first equals sign. -/
def decodePair (part : Bytes) : String × String :=
  (decodeText (part.takeWhile (· != 61)), decodeText ((part.dropWhile (· != 61)).drop 1))

/-- The decoded pairs, in order; empty parts are skipped. -/
def pairs (bs : Bytes) : List (String × String) :=
  ((Bytes.split 38 bs).filter fun part => !part.isEmpty).map decodePair

end Form

/-- Decoded parameters: the values of each name, in order. -/
abbrev Params := Dict (List String)

namespace Params

/-- Adds pairs behind the values that their names already have. -/
def append (params : Params) (pairs : List (String × String)) : Params :=
  pairs.foldl (fun ps kv => ps.push kv.1 kv.2) params

end Params

end CloudStub
