import CloudStub.Text.Base64
import CloudStub.Text.Cut
import CloudStub.Text.Utf8

/-!
# PEM blocks

A PEM block is a byte sequence in Base64 between two boundary lines that carry the same label:

    -----BEGIN CERTIFICATE-----
    ...
    -----END CERTIFICATE-----

Text around a block does not matter, and of several blocks the first counts.  Inside a block,
header lines may stand in front of an empty line.

## Main Definitions

- `Pem.Block`: a label and the bytes of a block
- `Pem.first?`: the first block of a text
- `Pem.seek?`: the parts around a marker

## Design Notes

A marker is sought without stepping back: where a partial match fails, the search goes on behind
the character at which it failed.
-/

namespace CloudStub.Pem

/-- A block. -/
structure Block where
  /-- The label of the boundary lines. -/
  label : String
  /-- The bytes between them. -/
  contents : Bytes
  deriving DecidableEq, Repr

/-- The parts before and behind a marker, of which some characters are still due.  The text that
was passed is kept in reverse. -/
def seekFrom (marker : List Char) : List Char → List Char → List Char →
    Option (List Char × List Char)
  | [], passed, rest => some ((passed.drop marker.length).reverse, rest)
  | _ :: _, _, [] => none
  | d :: due, passed, c :: rest =>
    if c = d then seekFrom marker due (c :: passed) rest
    else seekFrom marker marker (c :: passed) rest

/-- The parts before and behind the first place where a marker is found. -/
def seek? (marker : String) (cs : List Char) : Option (List Char × List Char) :=
  seekFrom marker.toList marker.toList [] cs

/-- The blanks that may stand behind a boundary. -/
def isBlank (c : Char) : Bool := c == ' ' || c == '\t' || c == '\n' || c == '\r'

/-- The header lines and the data of a block's body. -/
def splitHeaders (body : List Char) : List Char × List Char :=
  match seek? "\n\n" body <|> seek? "\r\n\r\n" body with
  | some (headers, data) => (headers, data)
  | none => ([], body)

/-- Whether every header line has a name. -/
def namedHeaders (headers : List Char) : Bool :=
  headers.isEmpty || (Cut.fields '\n' headers).all fun line => line.contains ':'

/-- The first block of a text. -/
def first? (text : String) : Option Block := do
  let (_, rest) ← seek? "-----BEGIN " text.toList
  let (label, rest) ← seek? "-----" rest
  let (body, rest) ← seek? "-----END " (rest.dropWhile isBlank)
  let (closing, _) ← seek? "-----" rest
  let (headers, data) := splitHeaders body
  if label.isEmpty || label != closing || !namedHeaders headers then none
  else
    let symbols := data.filter fun c => !Unicode.isBlank c
    match Base64.decode (Utf8.encode (String.ofList symbols)) with
    | .ok contents => some ⟨String.ofList label, contents⟩
    | .error _ => none

end CloudStub.Pem
