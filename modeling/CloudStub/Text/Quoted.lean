import CloudStub.Unicode.Classes

/-!
# Quoted text

Messages and dumps show texts in double quotes.  Quotes and backslashes are escaped, the common
controls have short escapes, and every other character that cannot be shown is written as its
hexadecimal number.

## Main Definitions

- `Quoted.escape`: the quoted form of one character
- `Quoted.quote`: a text in double quotes
- `Quoted.optional`: an optional text
-/

namespace CloudStub.Quoted

/-- A number in lowercase hexadecimal without leading zeros. -/
def hex (n : Nat) : String := String.ofList (Nat.toDigits 16 n)

/-- The quoted form of one character. -/
def escape (c : Char) : String :=
  if c == '"' then "\\\""
  else if c == '\\' then "\\\\"
  else if c == '\n' then "\\n"
  else if c == '\r' then "\\r"
  else if c == '\t' then "\\t"
  else if c.toNat == 0 then "\\0"
  else if Unicode.isPrintable c then c.toString
  else "\\" ++ "u\x7b" ++ hex c.toNat ++ "\x7d"

/-- A text in double quotes. -/
def quote (s : String) : String :=
  "\"" ++ String.join (s.toList.map escape) ++ "\""

/-- A list of shown items in square brackets. -/
def list (items : List String) : String := "[" ++ ", ".intercalate items ++ "]"

/-- A list of shown entries in braces. -/
def entries (items : List (String × String)) : String :=
  "\x7b" ++ ", ".intercalate (items.map fun kv => kv.1 ++ ": " ++ kv.2) ++ "\x7d"

/-- A record: its name and its fields, each shown after its name. -/
def record (name : String) (fields : List (String × String)) : String :=
  name ++ " \x7b " ++ ", ".intercalate (fields.map fun kv => kv.1 ++ ": " ++ kv.2) ++ " \x7d"

/-- An optional item that is already shown. -/
def optional : Option String → String
  | none => "None"
  | some s => "Some(" ++ s ++ ")"

end CloudStub.Quoted
