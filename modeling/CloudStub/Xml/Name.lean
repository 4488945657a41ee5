import CloudStub.Text.Quoted

/-!
# XML names and escapes

The names that elements and attributes may have, and the escaping of text between tags and inside
attribute values.

## Main Definitions

- `Xml.isName`: the legal names
- `Xml.InvalidName`: the error of an illegal name
- `Xml.escape`: text in which the five special characters are written as entities
-/

namespace CloudStub.Xml

/-- The characters that may begin a name. -/
def isNameStart (c : Char) : Bool := Unicode.isAlphabetic c || c == '_' || c == ':'

/-- The characters that may follow in a name. -/
def isNameChar (c : Char) : Bool :=
  Unicode.isAlphanumeric c || c == '_' || c == '-' || c == '.' || c == ':'

/-- Whether a text is a legal name. -/
def isName (name : String) : Bool :=
  match name.toList with
  | [] => false
  | c :: rest => isNameStart c && rest.all isNameChar

/-- A name that is not legal. -/
structure InvalidName where
  /-- The name. -/
  name : String
  deriving DecidableEq, Repr

/-- The wording of the error. -/
def InvalidName.message (e : InvalidName) : String :=
  "invalid XML element name: " ++ Quoted.quote e.name

/-- The written form of one character of text. -/
def escapeChar (c : Char) : List Char :=
  if c = '&' then "&amp;".toList
  else if c = '<' then "&lt;".toList
  else if c = '>' then "&gt;".toList
  else if c = '"' then "&quot;".toList
  else if c = '\x27' then "&apos;".toList
  else [c]

/-- Text in which the five special characters are written as entities. -/
def escape (text : String) : String := String.ofList (text.toList.flatMap escapeChar)

end CloudStub.Xml
