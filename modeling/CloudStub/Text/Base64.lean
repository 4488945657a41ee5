import CloudStub.Text.Bytes

/-!
# Base64

The standard alphabet with padding.  Reading is strict: the padding must complete the last group
of four symbols, and the bits that the last symbol does not use must be zero.

## Main Definitions

- `Base64.encode`: the symbols of a byte sequence
- `Base64.decode`: the bytes that symbols stand for
- `Base64.DecodeError`: why a text is not Base64

## Design Notes

All groups but the last are read first, so a bad symbol there is reported before anything about
the end of the text; a single symbol too many is reported first of all when it is no symbol.
-/

namespace CloudStub.Base64

/-- Why a text is not Base64. -/
inductive DecodeError where
  /-- A byte outside the alphabet, or padding where none may stand. -/
  | badSymbol (byte : UInt8) (offset : Nat)
  /-- A last symbol whose unused bits are not zero. -/
  | badLastSymbol (byte : UInt8) (offset : Nat)
  /-- A group of a single symbol. -/
  | badLength (length : Nat)
  /-- Padding that does not complete the last group. -/
  | badPadding
  deriving DecidableEq, Repr

/-- The wording of a decoding error. -/
def DecodeError.message : DecodeError → String
  | .badSymbol byte offset =>
    "Invalid symbol " ++ toString byte.toNat ++ ", offset " ++ toString offset ++ "."
  | .badLastSymbol byte offset =>
    "Invalid last symbol " ++ toString byte.toNat ++ ", offset " ++ toString offset ++ "."
  | .badLength length => "Invalid input length: " ++ toString length
  | .badPadding => "Invalid padding"

/-- The padding symbol. -/
def pad : UInt8 := 61

/-- The symbol for six bits. -/
def symbol (n : Nat) : UInt8 :=
  if n < 26 then UInt8.ofNat (n + 65)
  else if n < 52 then UInt8.ofNat (n + 71)
  else if n < 62 then UInt8.ofNat (n - 4)
  else if n = 62 then 43
  else 47

/-- The six bits of a symbol. -/
def bits? (b : UInt8) : Option Nat :=
  if 65 ≤ b && b ≤ 90 then some (b.toNat - 65)
  else if 97 ≤ b && b ≤ 122 then some (b.toNat - 71)
  else if 48 ≤ b && b ≤ 57 then some (b.toNat + 4)
  else if b == 43 then some 62
  else if b == 47 then some 63
  else none

/-- The symbols of a byte sequence. -/
def encode : Bytes → Bytes
  | [] => []
  | [a] => [symbol (a.toNat / 4), symbol (a.toNat % 4 * 16), pad, pad]
  | [a, b] =>
    [symbol (a.toNat / 4), symbol (a.toNat % 4 * 16 + b.toNat / 16),
     symbol (b.toNat % 16 * 4), pad]
  | a :: b :: c :: rest =>
    symbol (a.toNat / 4) :: symbol (a.toNat % 4 * 16 + b.toNat / 16) ::
    symbol (b.toNat % 16 * 4 + c.toNat / 64) :: symbol (c.toNat % 64) :: encode rest

/-- The symbols of a byte sequence as text. -/
def encodeText (bs : Bytes) : String :=
  String.ofList ((encode bs).map fun b => Char.ofNat b.toNat)

/-- The bits of the symbol at an offset. -/
def symbolBits (offset : Nat) (b : UInt8) : Except DecodeError Nat :=
  match bits? b with
  | some n => .ok n
  | none => .error (.badSymbol b offset)

/-- The three bytes of four groups of six bits. -/
def quad (a b c d : Nat) : Bytes :=
  [UInt8.ofNat (a * 4 + b / 16), UInt8.ofNat (b % 16 * 16 + c / 4), UInt8.ofNat (c % 4 * 64 + d)]

/-- The symbols of the last group up to the padding, and how many padding symbols follow.  At
least two symbols stand before padding, and only padding stands after it. -/
def lastGroup (offset : Nat) : Nat → Option Nat → List Nat → Bytes →
    Except DecodeError (List Nat × Nat)
  | index, firstPad, bits, [] => .ok (bits.reverse, match firstPad with
    | some p => index - p
    | none => 0)
  | index, firstPad, bits, b :: rest =>
    if b == pad then
      if index < 2 then .error (.badSymbol b (offset + index))
      else lastGroup offset (index + 1) (some (firstPad.getD index)) bits rest
    else
      match firstPad with
      | some p => .error (.badSymbol pad (offset + p))
      | none => do
        let n ← symbolBits (offset + index) b
        lastGroup offset (index + 1) none (n :: bits) rest

/-- The bytes of the last group. -/
def closeGroup (offset : Nat) (group : Bytes) (bits : List Nat) (pads : Nat) :
    Except DecodeError Bytes :=
  if bits.length < 2 then .error (.badLength (offset + bits.length))
  else if (pads + bits.length) % 4 != 0 then .error .badPadding
  else
    let last := (group[bits.length - 1]?).getD 0
    match bits with
    | [a, b] =>
      if b % 16 != 0 then .error (.badLastSymbol last (offset + 1))
      else .ok [UInt8.ofNat (a * 4 + b / 16)]
    | [a, b, c] =>
      if c % 4 != 0 then .error (.badLastSymbol last (offset + 2))
      else .ok [UInt8.ofNat (a * 4 + b / 16), UInt8.ofNat (b % 16 * 16 + c / 4)]
    | a :: b :: c :: d :: _ => .ok (quad a b c d)
    | _ => .ok []

/-- Reads groups of four symbols; the last group, complete or not, may hold padding. -/
def groups (offset : Nat) : Bytes → Except DecodeError Bytes
  | [] => .ok []
  | a :: b :: c :: d :: e :: rest => do
    let na ← symbolBits offset a
    let nb ← symbolBits (offset + 1) b
    let nc ← symbolBits (offset + 2) c
    let nd ← symbolBits (offset + 3) d
    let more ← groups (offset + 4) (e :: rest)
    .ok (quad na nb nc nd ++ more)
  | group => do
    let (bits, pads) ← lastGroup offset 0 none [] group
    closeGroup offset group bits pads

/-- The bytes that symbols stand for. -/
def decode (input : Bytes) : Except DecodeError Bytes :=
  match input.getLast? with
  | some last =>
    if input.length % 4 == 1 && last != pad && (bits? last).isNone then
      .error (.badSymbol last (input.length - 1))
    else groups 0 input
  | none => .ok []

end CloudStub.Base64
