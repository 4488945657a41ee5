import CloudStub.Json.Text
import CloudStub.Reply.Draft
import CloudStub.Xml.Name

/-!
# Error answers

Errors are answered with a code and a message, in the format that the request expects: a line of
text, a JSON object with the members `code` and `message`, or an XML document that also names the
side at fault and a request id.

## Main Definitions

- `RenderError`: why an answer could not be rendered
- `Fault`: an error answer
- `Fault.ofRenderError`: the error answer for a rendering failure
- `Fault.draft`: the draft of an error answer in a format
-/

namespace CloudStub

/-- Why an answer could not be rendered. -/
inductive RenderError where
  /-- A structured body gives rise to an illegal name. -/
  | invalidName (e : Xml.InvalidName)
  /-- A body function returned values of no known shape. -/
  | invalidFunction (reason : String)
  deriving DecidableEq, Repr

/-- The wording of a rendering failure. -/
def RenderError.message : RenderError → String
  | .invalidName e => e.message
  | .invalidFunction reason => "invalid body function: " ++ reason

/-- An error answer. -/
structure Fault where
  /-- The side at fault. -/
  side : String
  /-- The error code. -/
  code : String
  /-- The message. -/
  message : String
  /-- The request id shown in XML. -/
  requestId : String
  /-- The status. -/
  status : Nat
  deriving DecidableEq, Repr

namespace Fault

/-- The request id of error answers. -/
def fixedRequestId : String := "7a62c49f-347e-4fc4-9331-6e8eEXAMPLE"

/-- An error answer with the status of an operation that is not there. -/
def new (code message : String) : Fault := ⟨"Sender", code, message, fixedRequestId, 501⟩

/-- An error answer with another status. -/
def withStatus (f : Fault) (status : Nat) : Fault := { f with status }

/-- The answer to a request that no rule claims. -/
def unmatched : Fault := new "AccessDenied" "No matching request mock was found for this"

/-- The error answer for a rendering failure. -/
def ofRenderError (e : RenderError) : Fault :=
  let code :=
    match e with
    | .invalidName _ => "BadMockBody"
    | .invalidFunction _ => "InvalidBodyFunc"
  (new code e.message).withStatus 400

/-- The line of text. -/
def text (f : Fault) : String := "ERROR! " ++ f.code ++ ": " ++ f.message

/-- The JSON object. -/
def json (f : Fault) : String :=
  (Json.ofMembers [("code", .str f.code), ("message", .str f.message)]).text

/-- The XML document. -/
def xml (f : Fault) : String :=
  "<ErrorResponse>\n  <Error>\n    <Type>" ++ Xml.escape f.side ++
  "</Type>\n    <Code>" ++ Xml.escape f.code ++
  "</Code>\n    <Message>" ++ Xml.escape f.message ++
  "</Message>\n  </Error>\n  <RequestId>" ++ Xml.escape f.requestId ++
  "</RequestId>\n</ErrorResponse>"

/-- The body in a format. -/
def body (f : Fault) : Format → String
  | .text => f.text
  | .json => f.json
  | .xml => f.xml

/-- The draft in a format. -/
def draft (f : Fault) (format : Format) : Draft :=
  ⟨f.status, format.contentType, Utf8.encode (f.body format), []⟩

end Fault

end CloudStub
