import CloudStub.Http.Message
import CloudStub.Request.Received

/-!
# Drafts

A draft is an answer before it becomes a message: status, content type, body and declared headers
as they were written down.  Completing a draft makes it a legal message: an impossible status
becomes 500, an illegal content type plain text, an illegal declared header is left out, and the
headers that every answer has are added.

## Main Definitions

- `Draft`: an answer before it becomes a message
- `Draft.complete`: the message
-/

namespace CloudStub

/-- An answer before it becomes a message. -/
structure Draft where
  /-- The status. -/
  status : Nat
  /-- The content type. -/
  contentType : String
  /-- The body. -/
  body : Bytes
  /-- The declared headers, in order. -/
  headers : List (String × String)
  deriving DecidableEq, Repr

namespace Draft

/-- The name under which answers are served. -/
def serverName : String := "cloudmock"

/-- The field that carries the request id. -/
def requestIdField : String := "x-amzn-requestid"

/-- A declared header as a field, when its name and its value are legal. -/
def field? (header : String × String) : Option (String × Http.FieldValue) := do
  let name ← Http.fieldNameOfText? header.1
  let value := Utf8.encode header.2
  if Http.isFieldValue value then some (name, .bytes value) else none

/-- The content type as a field value; plain text when it is not legal. -/
def contentTypeValue (contentType : String) : Http.FieldValue :=
  let value := Utf8.encode contentType
  if Http.isFieldValue value then .bytes value else .ofText MediaType.text

/-- Adds a field unless its name is there already. -/
def addMissing (h : Http.Headers Http.FieldValue) (name : String) (value : Http.FieldValue) :
    Http.Headers Http.FieldValue :=
  if h.contains name then h else h.insert name value

/-- The header section: content type and server, which declared headers may replace, the declared
headers, and date and request id unless they were declared. -/
def headerSection (d : Draft) : Http.Headers Http.FieldValue :=
  let first := (Http.Headers.empty.insert "content-type" (contentTypeValue d.contentType)).insert
    "server" (.ofText serverName)
  let declared := (d.headers.filterMap field?).foldl (fun h f => h.insert f.1 f.2) first
  addMissing (addMissing declared "date" .currentDate) requestIdField .freshId

/-- Whether a status may stand in a message. -/
def isStatus (status : Nat) : Bool := 100 ≤ status && status ≤ 999

/-- The message. -/
def complete (d : Draft) : Http.Response :=
  { status := if isStatus d.status then d.status else 500
    headers := d.headerSection
    body := d.body }

/-- The body as text. -/
def bodyText (d : Draft) : String := Utf8.decodeLossy d.body

end Draft

end CloudStub
