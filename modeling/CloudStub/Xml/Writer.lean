import CloudStub.Json.Text
import CloudStub.Xml.Name

/-!
# Writing XML

Structured values become elements.  The keys of an object become child elements; an array under a
key repeats the element of that key; an array that is the root or an item of an array becomes
`member` children.  A key with a leading `-` becomes an attribute and the key `#text` the text of
the element.  Null and the empty object become empty elements.

Elements are written on lines of their own, indented by two spaces for each open element.

## Main Definitions

- `Xml.Writer`: the text written so far and the number of open elements
- `Xml.Write`: a writing step, which may fail and then keeps what it wrote
- `Writer.openTag`, `Writer.closeTag`, `Writer.textElement`: single tags
- `Writer.singleWith`, `Writer.rootWith`: structured values, with a way to close an element
- `Writer.single`, `Writer.value`, `Writer.root`: structured values
- `Xml.document`: a value as a document
-/

namespace CloudStub.Xml

/-- The text written so far and the number of open elements. -/
structure Writer where
  /-- The text written so far. -/
  out : String
  /-- The number of open elements. -/
  depth : Nat
  deriving DecidableEq, Inhabited, Repr

/-- A writing step: it changes the writer and may fail with an illegal name. -/
abbrev Write := EStateM InvalidName Writer

/-- The indentation of one level. -/
def indent : String := "  "

/-- The element that holds an item of an array without a key of its own. -/
def itemName : String := "member"

namespace Writer

/-- The writer before anything is written. -/
def empty : Writer := ⟨"", 0⟩

/-- The spaces in front of a line. -/
def margin (depth : Nat) : String := String.join (List.replicate depth indent)

/-- The writer behind one more line. -/
def addLine (w : Writer) (content : String) : Writer :=
  { w with out := (if w.out.isEmpty then "" else w.out ++ "\n") ++ margin w.depth ++ content }

/-- Writes a line. -/
def line (content : String) : Write Unit := modify fun w => w.addLine content

/-- Changes the number of open elements. -/
def nest (f : Nat → Nat) : Write Unit := modify fun w => { w with depth := f w.depth }

/-- Fails when a name is not legal. -/
def check (name : String) : Write Unit :=
  if isName name then pure () else throw ⟨name⟩

/-- Opens an element. -/
def openTag (name : String) : Write Unit := do
  check name
  line ("<" ++ name ++ ">")
  nest (· + 1)

/-- Closes an element. -/
def closeTag (name : String) : Write Unit := do
  nest (· - 1)
  line ("</" ++ name ++ ">")

/-- Writes an element that holds text. -/
def textElement (name text : String) : Write Unit := do
  check name
  line ("<" ++ name ++ ">" ++ escape text ++ "</" ++ name ++ ">")

/-- The text that a value stands for in an attribute or as the text of an element: a string as it
is, null as nothing, any other value as its JSON text. -/
def plainText : Json → String
  | .str s => s
  | .null => ""
  | v => v.text

/-- The name of the attribute that a key stands for. -/
def attributeName? (key : String) : Option String :=
  match key.toList with
  | '-' :: rest => some (String.ofList rest)
  | _ => none

/-- The key of the text of an element. -/
def textKey : String := "#text"

/-- The attributes of an object, each with a space in front; fails at the first illegal name. -/
def attributes : List (String × Json) → Write String
  | [] => pure ""
  | (key, v) :: rest =>
    match attributeName? key with
    | some name => do
      check name
      let more ← attributes rest
      pure (" " ++ name ++ "=\"" ++ escape (plainText v) ++ "\"" ++ more)
    | none => attributes rest

/-- The text of the element of an object. -/
def ownText? (members : List (String × Json)) : Option String :=
  (Entries.get? textKey members).map plainText

/-- Whether a key stands for a child element. -/
def isChild (key : String) : Bool := (attributeName? key).isNone && key != textKey

/-- Whether an object has child elements. -/
def hasChild (members : List (String × Json)) : Bool := members.any fun kv => isChild kv.1

/-- Writes the text in front of the child elements, if there is any. -/
def ownLine : Option String → Write Unit
  | some text => line (escape text)
  | none => pure ()

/-- The element of an object without child elements. -/
def childless (name attrs : String) (text : Option String) : Write Unit :=
  match text with
  | some text => line ("<" ++ name ++ attrs ++ ">" ++ escape text ++ "</" ++ name ++ ">")
  | none => line ("<" ++ name ++ attrs ++ "/>")

section Closing

/-! How an element is closed is a parameter of the functions that write values. -/

variable (close : String → Write Unit)

mutual

/-- Writes a value as one element. -/
def singleWith (name : String) : Json → Write Unit
  | .null => do
    check name
    line ("<" ++ name ++ "/>")
  | .obj members => do
    check name
    let attrs ← attributes members.toList
    if hasChild members.toList then
      line ("<" ++ name ++ attrs ++ ">")
      nest (· + 1)
      ownLine (ownText? members.toList)
      childrenWith members
      close name
    else childless name attrs (ownText? members.toList)
  | .arr items => do
    check name
    openTag name
    elementsWith itemName items
    close name
  | .bool b => textElement name (plainText (.bool b))
  | .num n => textElement name (plainText (.num n))
  | .str s => textElement name (plainText (.str s))

/-- Writes each value as one element. -/
def elementsWith (name : String) : List Json → Write Unit
  | [] => pure ()
  | v :: rest => do
    singleWith name v
    elementsWith name rest

/-- Writes the child elements of an object. -/
def childrenWith {start : Option String} : Dict.Behind Json start → Write Unit
  | .nil => pure ()
  | .cons key v _ rest => do
    if isChild key then
      match v with
      | .arr items => elementsWith key items
      | v => singleWith key v
    childrenWith rest

end

/-- Writes a value under a key: an array repeats the element. -/
def valueWith (name : String) : Json → Write Unit
  | .arr items => elementsWith close name items
  | v => singleWith close name v

/-- Writes a value as the root element: the items of an array become its children. -/
def rootWith (name : String) : Json → Write Unit
  | .arr items => do
    openTag name
    elementsWith close itemName items
    close name
  | v => singleWith close name v

end Closing

/-- Writes a value as one element. -/
def single (name : String) (v : Json) : Write Unit := singleWith closeTag name v

/-- Writes a value under a key: an array repeats the element. -/
def value (name : String) (v : Json) : Write Unit := valueWith closeTag name v

/-- Writes a value as the root element: the items of an array become its children. -/
def root (name : String) (v : Json) : Write Unit := rootWith closeTag name v

end Writer

/-- What a writing step writes from the start, unless it fails. -/
def Write.text (step : Write Unit) : Except InvalidName String :=
  match step.run Writer.empty with
  | .ok _ w => .ok w.out
  | .error e _ => .error e

/-- A value as a document with the given root element. -/
def document (name : String) (v : Json) : Except InvalidName String := (Writer.root name v).text

end CloudStub.Xml
