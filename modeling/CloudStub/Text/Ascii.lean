import CloudStub.Unicode.Classes

/-!
# ASCII case and digits

Names of headers, media types and encodings are compared without regard to the case of ASCII
letters; every other character is compared as it is.  Numbers are written with ASCII digits.

## Main Definitions

- `Ascii.lower`, `Ascii.upper`: case of one character
- `Ascii.lowerText`, `Ascii.upperText`: case of a text
- `Ascii.eqIgnoreCase`: comparison without regard to ASCII case
- `Ascii.isText`: whether a text is ASCII throughout
- `Ascii.hexDigit?`, `Ascii.decimalValue`: the values of digits
-/

namespace CloudStub.Ascii

/-- The lowercase form of an ASCII capital; any other character as it is. -/
def lower (c : Char) : Char :=
  if 'A' ≤ c && c ≤ 'Z' then Char.ofNat (c.toNat + 32) else c

/-- The uppercase form of an ASCII small letter; any other character as it is. -/
def upper (c : Char) : Char :=
  if 'a' ≤ c && c ≤ 'z' then Char.ofNat (c.toNat - 32) else c

/-- A text with its ASCII capitals in lower case. -/
def lowerText (s : String) : String := String.ofList (s.toList.map lower)

/-- A text with its ASCII small letters in upper case. -/
def upperText (s : String) : String := String.ofList (s.toList.map upper)

/-- Equality of texts without regard to ASCII case. -/
def eqIgnoreCase (a b : String) : Bool := a.toList.map lower == b.toList.map lower

/-- Whether every character is below 128. -/
def isText (s : String) : Bool := s.toList.all fun c => c.toNat < 128

/-- The value of a hexadecimal digit. -/
def hexDigit? (c : Char) : Option Nat :=
  if '0' ≤ c && c ≤ '9' then some (c.toNat - 48)
  else if 'a' ≤ c && c ≤ 'f' then some (c.toNat - 87)
  else if 'A' ≤ c && c ≤ 'F' then some (c.toNat - 55)
  else none

/-- The value of a sequence of decimal digits. -/
def decimalValue (ds : List Char) : Nat := ds.foldl (fun n d => n * 10 + (d.toNat - 48)) 0

end CloudStub.Ascii
