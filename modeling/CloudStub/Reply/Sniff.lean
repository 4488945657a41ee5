import CloudStub.Json.Outline
import CloudStub.Request.Received

/-!
# Content types of literal bodies

The content type of a body that declares none is inferred from the body: for text from its first
character, for bytes from a magic number at the front or else from what stands behind leading
white space.

## Main Definitions

- `MediaType.ofText`: the content type of a text
- `MediaType.ofBytes`: the content type of bytes
-/

namespace CloudStub.MediaType

/-- The content type of a text, from its first character. -/
def ofText (text : String) : String :=
  match text.toList with
  | '<' :: _ => xml
  | '{' :: _ => json
  | _ => MediaType.text

/-- The magic numbers, each with its content type. -/
def magicNumbers : List (Bytes × String) :=
  [([0x89, 80, 78, 71, 13, 10, 26, 10], "image/png"),
   ([71, 73, 70, 56, 55, 97], "image/gif"),
   ([71, 73, 70, 56, 57, 97], "image/gif"),
   ([0xFF, 0xD8, 0xFF], "image/jpeg"),
   ([37, 80, 68, 70, 45], "application/pdf"),
   ([0x1F, 0x8B, 8], "application/x-gzip"),
   ([80, 75, 3, 4], "application/zip")]

/-- The content type of the magic number at the front, if there is one. -/
def ofMagic? (bs : Bytes) : Option String :=
  (magicNumbers.find? fun m => m.1.isPrefixOf bs).map (·.2)

/-- HTML documents. -/
def html : String := "text/html; charset=utf-8"

/-- Bytes of unknown meaning. -/
def octets : String := "application/octet-stream"

/-- Whether bytes begin like an HTML document. -/
def looksLikeHtml (bs : Bytes) : Bool :=
  Bytes.startsWithIgnoreCase (Utf8.encode "<!doctype html") bs ||
  Bytes.startsWithIgnoreCase (Utf8.encode "<html") bs

/-- Whether bytes begin an array or an object and are JSON throughout. -/
def looksLikeJson (bs : Bytes) : Bool :=
  match bs with
  | b :: _ => (b == 123 || b == 91) && (Json.parseBytes? bs).isSome
  | [] => false

/-- Whether bytes are text: UTF-8 without the zero character. -/
def looksLikeText (bs : Bytes) : Bool := (Utf8.decode? bs).isSome && !bs.contains 0

/-- The content type of bytes. -/
def ofBytes (bs : Bytes) : String :=
  if bs.isEmpty then MediaType.text
  else
    match ofMagic? bs with
    | some contentType => contentType
    | none =>
      let trimmed := Bytes.dropBlank bs
      if looksLikeHtml trimmed then html
      else if trimmed.head? == some 60 then xml
      else if looksLikeJson trimmed then json
      else if looksLikeText bs then MediaType.text
      else octets

end CloudStub.MediaType
