import CloudStub.Text.Bytes

/-!
# UTF-8

Text is written to bytes as UTF-8, and bytes are read back in two ways: strictly, where any
malformed sequence fails, and with replacement, where each longest malformed sequence becomes one
replacement character.

Reading is a machine that steps over one byte at a time.  Between bytes it remembers how many
continuation bytes are due, the bits gathered so far, and the range in which the next byte must
lie; these ranges exclude overlong forms, surrogates and numbers past the last code point.

## Main Definitions

- `Utf8.encode`: the bytes of a text
- `Utf8.pieces`: the characters of a byte sequence, `none` for each malformed sequence
- `Utf8.decode?`: strict reading
- `Utf8.decodeLossy`: reading with replacement characters
-/

namespace CloudStub.Utf8

/-- The bytes of a text. -/
def encode (text : String) : Bytes := text.toList.flatMap String.utf8EncodeChar

/-- What the reader remembers between two bytes. -/
inductive State where
  /-- Between characters. -/
  | start
  /-- Inside a character: continuation bytes due, bits so far, range of the next byte. -/
  | inside (due : Nat) (bits : Nat) (lo hi : UInt8)
  deriving DecidableEq, Repr

/-- The step over a byte that begins a character. -/
def State.begin (b : UInt8) : List (Option Char) × State :=
  if b < 0x80 then ([some (Char.ofNat b.toNat)], .start)
  else if b < 0xC2 then ([none], .start)
  else if b < 0xE0 then ([], .inside 1 (b.toNat - 0xC0) 0x80 0xBF)
  else if b == 0xE0 then ([], .inside 2 0 0xA0 0xBF)
  else if b == 0xED then ([], .inside 2 0xD 0x80 0x9F)
  else if b < 0xF0 then ([], .inside 2 (b.toNat - 0xE0) 0x80 0xBF)
  else if b == 0xF0 then ([], .inside 3 0 0x90 0xBF)
  else if b < 0xF4 then ([], .inside 3 (b.toNat - 0xF0) 0x80 0xBF)
  else if b == 0xF4 then ([], .inside 3 4 0x80 0x8F)
  else ([none], .start)

/-- The step over one byte.  A byte that does not continue the open character ends it as
malformed and begins anew. -/
def State.step : State → UInt8 → List (Option Char) × State
  | .start, b => State.begin b
  | .inside due bits lo hi, b =>
    if lo ≤ b && b ≤ hi then
      let bits := bits * 64 + (b.toNat - 0x80)
      match due with
      | 0 | 1 => ([some (Char.ofNat bits)], .start)
      | due + 2 => ([], .inside (due + 1) bits 0x80 0xBF)
    else
      let next := State.begin b
      (none :: next.1, next.2)

/-- Reads on from a state; a character that the end cuts short is malformed. -/
def run : State → Bytes → List (Option Char)
  | .start, [] => []
  | .inside .., [] => [none]
  | s, b :: rest => (s.step b).1 ++ run (s.step b).2 rest

/-- The characters of a byte sequence, `none` for each longest malformed sequence. -/
def pieces (bs : Bytes) : List (Option Char) := run .start bs

/-- Strict reading: the text, unless some sequence is malformed. -/
def decode? (bs : Bytes) : Option String :=
  (pieces bs).mapM id |>.map String.ofList

/-- The character that stands for a malformed sequence. -/
def replacement : Char := Char.ofNat 0xFFFD

/-- Reading with one replacement character for each malformed sequence. -/
def decodeLossy (bs : Bytes) : String :=
  String.ofList ((pieces bs).map fun p => p.getD replacement)

/-- An ASCII byte stands for itself, whatever follows. -/
theorem pieces_ascii_cons {b : UInt8} (h : b < 0x80) (bs : Bytes) :
    pieces (b :: bs) = some (Char.ofNat b.toNat) :: pieces bs := by
  simp [pieces, run, State.step, State.begin, h]

end CloudStub.Utf8
