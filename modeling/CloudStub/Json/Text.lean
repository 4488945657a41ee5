import CloudStub.Decimal.Shortest
import CloudStub.Json.Value
import CloudStub.Text.Quoted

/-!
# JSON text

The compact text of a JSON value: no blanks, members in key order, and in strings only quotes,
backslashes and controls escaped.  `Json.debug` is the form in which diagnostics show a value.

## Main Definitions

- `Json.escapeChar`, `Json.quote`: strings
- `Json.Number.text`: numbers
- `Json.text`: the compact text of a value
- `Json.debug`: the diagnostic form of a value
-/

namespace CloudStub.Json

/-- The escape of a character inside a string. -/
def escapeChar (c : Char) : List Char :=
  if c == '"' then ['\\', '"']
  else if c == '\\' then ['\\', '\\']
  else if c == '\n' then ['\\', 'n']
  else if c == '\r' then ['\\', 'r']
  else if c == '\t' then ['\\', 't']
  else if c == '\x08' then ['\\', 'b']
  else if c == '\x0c' then ['\\', 'f']
  else if c.toNat < 32 then
    ['\\', 'u', '0', '0', Nat.digitChar (c.toNat / 16), Nat.digitChar (c.toNat % 16)]
  else [c]

/-- A string in quotes. -/
def quote (s : String) : String :=
  "\"" ++ String.ofList (s.toList.flatMap escapeChar) ++ "\""

/-- The text of a number. -/
def Number.text : Number → String
  | .int i => toString i
  | .float x => Decimal.plain x

mutual

/-- The compact text of a value. -/
def text : Json → String
  | .null => "null"
  | .bool true => "true"
  | .bool false => "false"
  | .num n => n.text
  | .str s => quote s
  | .arr items => "[" ++ ",".intercalate (itemTexts items) ++ "]"
  | .obj members => "\x7b" ++ ",".intercalate (memberTexts members) ++ "\x7d"

/-- The texts of the items of an array. -/
def itemTexts : List Json → List String
  | [] => []
  | v :: rest => text v :: itemTexts rest

/-- The texts of the members of an object. -/
def memberTexts {start : Option String} : Dict.Behind Json start → List String
  | .nil => []
  | .cons k v _ rest => (quote k ++ ":" ++ text v) :: memberTexts rest

end

mutual

/-- The diagnostic form of a value. -/
def debug : Json → String
  | .null => "Null"
  | .bool true => "Bool(true)"
  | .bool false => "Bool(false)"
  | .num n => "Number(" ++ n.text ++ ")"
  | .str s => "String(" ++ Quoted.quote s ++ ")"
  | .arr items => "Array " ++ Quoted.list (itemDebugs items)
  | .obj members => "Object " ++ Quoted.entries (memberDebugs members)

/-- The diagnostic forms of the items of an array. -/
def itemDebugs : List Json → List String
  | [] => []
  | v :: rest => debug v :: itemDebugs rest

/-- The diagnostic forms of the members of an object. -/
def memberDebugs {start : Option String} : Dict.Behind Json start → List (String × String)
  | .nil => []
  | .cons k v _ rest => (Quoted.quote k, debug v) :: memberDebugs rest

end

end CloudStub.Json
