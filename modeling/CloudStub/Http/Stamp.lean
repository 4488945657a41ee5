import CloudStub.Data.Moment
import CloudStub.Http.Message

/-!
# Stamps

The values that are made when a response is written: the date, and a request id.  A request id is
made of sixteen random bytes, in which six bits say that it is random.

## Main Definitions

- `Stamp.requestIdOf`: the request id of some random bytes
- `Stamp.new`: the values of a moment and of some random bytes
-/

namespace CloudStub.Http.Stamp

/-- A byte with the mark of random ids in its upper half. -/
def versioned (b : UInt8) : UInt8 := b % 16 + 64

/-- A byte with the mark of the usual layout in its two upper bits. -/
def laidOut (b : UInt8) : UInt8 := b % 64 + 128

/-- Sixteen bytes with the marks of a random id. -/
def marked (random : Bytes) : Bytes := (random.modify 6 versioned).modify 8 laidOut

/-- Groups of bytes in hexadecimal digits, with a dash between groups. -/
def grouped : List Nat → Bytes → List (List Char)
  | [], _ => []
  | n :: sizes, bs => (bs.take n).flatMap Bytes.hexDigits :: grouped sizes (bs.drop n)

/-- The request id of sixteen random bytes. -/
def requestIdOf (random : Bytes) : String :=
  "-".intercalate ((grouped [4, 2, 2, 2, 6] (marked random)).map String.ofList)

/-- The values of a moment and of sixteen random bytes. -/
def new (m : Moment) (random : Bytes) : Stamp := ⟨m.stampText, requestIdOf random⟩

end CloudStub.Http.Stamp
