import CloudStub.Text.Utf8
import CloudStub.Text.Ascii

/-!
# Tokens and field values

The words of an HTTP message: methods and field names are tokens, field values are bytes without
controls.

## Main Definitions

- `Http.isTokenByte`: the bytes of tokens
- `Http.Method`: a request method
- `Http.fieldName?`: a field name in its lowercase form
- `Http.isFieldValue`: the bytes that may be a field value
- `Http.readable?`: a field value as text
-/

namespace CloudStub.Http

/-- The bytes of tokens: letters, digits and some punctuation. -/
def isTokenByte (b : UInt8) : Bool :=
  (48 ≤ b && b ≤ 57) || (65 ≤ b && b ≤ 90) || (94 ≤ b && b ≤ 122) || b == 33 ||
  (35 ≤ b && b ≤ 39) || b == 42 || b == 43 || b == 45 || b == 46 || b == 124 || b == 126

/-- A token: at least one byte, and only bytes of tokens. -/
def isToken (bs : Bytes) : Bool := !bs.isEmpty && bs.all isTokenByte

/-- ASCII bytes as text. -/
def asciiText (bs : Bytes) : String := String.ofList (bs.map fun b => Char.ofNat b.toNat)

/-- A request method, in the case in which it was written. -/
structure Method where
  /-- The name of the method. -/
  name : String
  deriving DecidableEq, Repr

namespace Method

/-- The method that bytes name. -/
def ofBytes? (bs : Bytes) : Option Method :=
  if isToken bs then some ⟨asciiText bs⟩ else none

/-- The method that a text names. -/
def ofText? (s : String) : Option Method := ofBytes? (Utf8.encode s)

/-- The method that reads a resource. -/
def get : Method := ⟨"GET"⟩

/-- The method that asks for a tunnel. -/
def connect : Method := ⟨"CONNECT"⟩

instance : Inhabited Method := ⟨get⟩

/-- The methods whose form bodies are decoded. -/
def carriesForm (m : Method) : Bool :=
  m.name == "POST" || m.name == "PUT" || m.name == "PATCH"

end Method

/-- The longest field name that is read. -/
def fieldNameLimit : Nat := 65535

/-- A field name in its lowercase form, when the bytes are a token that is not too long. -/
def fieldName? (bs : Bytes) : Option String :=
  if isToken bs && bs.length ≤ fieldNameLimit then some (asciiText (bs.map Bytes.lower)) else none

/-- The field name that a text spells. -/
def fieldNameOfText? (s : String) : Option String := fieldName? (Utf8.encode s)

/-- The bytes that may stand in a field value: no controls, but tabs. -/
def isFieldByte (b : UInt8) : Bool := (32 ≤ b && b != 127) || b == 9

/-- Whether bytes may be a field value. -/
def isFieldValue (bs : Bytes) : Bool := bs.all isFieldByte

/-- A field value that is visible ASCII throughout, spaces and tabs included, as text. -/
def readable? (bs : Bytes) : Option String :=
  if bs.all fun b => (32 ≤ b && b < 127) || b == 9 then some (asciiText bs) else none

end CloudStub.Http
