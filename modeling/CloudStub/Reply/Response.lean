import CloudStub.Reply.Body
import CloudStub.Xml.Writer

/-!
# Declared responses

A response declares what to answer; rendering turns it into a draft for one request.  Structured
values are encoded in the declared encoding, or else in the format that the request expects.  In
XML a value is put into an envelope that is named after the operation:

    <ActionResponse>
      <ActionResult>...</ActionResult>
      <ResponseMetadata><RequestId>...</RequestId></ResponseMetadata>
    </ActionResponse>

The envelope is written with a stand-in for the name of the operation, which is replaced in the
finished document.  Rendering never fails outwards: a failure becomes an error answer.

## Main Definitions

- `Encoding`: declared encodings
- `Response`: a declared response
- `Response.encodeXml`: the XML document of a structured value
- `Response.draft`: the draft for a request, or why there is none
- `Response.render`: the draft or the message for a request
-/

namespace CloudStub

/-- The encoding of structured values. -/
inductive Encoding where
  /-- What the request expects. -/
  | automatic
  /-- JSON. -/
  | json
  /-- XML. -/
  | xml
  /-- JSON that is declared to be plain text. -/
  | text
  deriving DecidableEq, Inhabited, Repr

/-- The diagnostic form of an encoding. -/
def Encoding.debug : Encoding → String
  | .automatic => "Default"
  | .json => "Json"
  | .xml => "Xml"
  | .text => "Text"

/-- A declared response. -/
structure Response where
  /-- The status; 200 when it is not declared. -/
  status : Option Nat
  /-- The content type; inferred when it is not declared. -/
  contentType : Option String
  /-- The encoding of structured values. -/
  encoding : Encoding
  /-- The body. -/
  body : Body
  /-- Whether XML goes without the envelope. -/
  unwrapped : Bool
  /-- The root element of XML without the envelope. -/
  rootTag : Option String
  /-- Declared headers, in order. -/
  headers : List (String × String)

instance : Inhabited Response := ⟨⟨none, none, .automatic, .empty, false, none, []⟩⟩

/-- What rendering yields. -/
inductive Rendered where
  /-- A draft. -/
  | draft (d : Draft)
  /-- The message that a handler made. -/
  | message (r : Http.Response)

/-- The message to send. -/
def Rendered.toMessage : Rendered → Http.Response
  | .draft d => d.complete
  | .message r => r

namespace Response

/-- A response that declares its body alone. -/
def ofBody (body : Body) : Response := { (default : Response) with body }

/-- A response that answers an error in the format that the request expects. -/
def fault (status : Option Nat) (code message : String) : Response :=
  let f := (Fault.new code message).withStatus (status.getD 400)
  ofBody (.handler fun r => (f.draft r.format).complete)

/-- The stand-in for the name of the operation. -/
def standIn : String := "_ACTION_NAME_HERE_"

/-- The request id inside the envelope. -/
def envelopeRequestId : String := "01234567-89ab-cdef-0123-456789abcdef"

/-- Writes a value in an envelope named after an operation, with a way to close an element. -/
def writeEnvelopeWith (close : String → Xml.Write Unit) (action : String) (v : Json) :
    Xml.Write Unit := do
  Xml.Writer.openTag (action ++ "Response")
  Xml.Writer.rootWith close (action ++ "Result") v
  Xml.Writer.openTag "ResponseMetadata"
  Xml.Writer.textElement "RequestId" envelopeRequestId
  close "ResponseMetadata"
  close (action ++ "Response")

/-- Writes a value in an envelope named after an operation. -/
def writeEnvelope (action : String) (v : Json) : Xml.Write Unit :=
  writeEnvelopeWith Xml.Writer.closeTag action v

/-- A value in an envelope: written with the stand-in, which the name then replaces. -/
def envelope (action : String) (v : Json) : Except Xml.InvalidName String := do
  let document ← (writeEnvelope standIn v).text
  if Xml.isName (action ++ "Response") then
    .ok (Cut.replaceAll standIn action document)
  else .error ⟨action ++ "Response"⟩

/-- The XML document of a structured value. -/
def encodeXml (r : Response) (action : String) (v : Json) : Except Xml.InvalidName String :=
  if r.unwrapped then Xml.document (r.rootTag.getD (action ++ "Response")) v
  else envelope action v

/-- Whether a structured value is encoded as XML for a format. -/
def choosesXml (r : Response) (format : Format) : Bool :=
  match r.encoding, format with
  | .xml, _ => true
  | .automatic, .xml => true
  | _, _ => false

/-- Content type and text of a structured value. -/
def encode (r : Response) (action : String) (format : Format) (v : Json) :
    Except RenderError (String × String) :=
  if r.choosesXml format then
    match r.encodeXml action v with
    | .ok document => .ok (MediaType.xml, document)
    | .error e => .error (.invalidName e)
  else if r.encoding = .text then .ok (MediaType.text, v.text)
  else .ok (MediaType.json, v.text)

/-- The draft of a declared body with the content type that its contents suggest. -/
def draftOf (r : Response) (suggested : String) (body : Bytes) : Draft :=
  ⟨r.status.getD 200, r.contentType.getD suggested, body, r.headers⟩

/-- The draft of a body that a function yielded.  What the function chose counts first, then what
is declared, then what the body suggests. -/
def draftOfProduced (r : Response) (p : Produced) : Draft :=
  ⟨p.status.getD (r.status.getD 200),
    p.contentType.getD (r.contentType.getD (MediaType.ofText p.body)),
    Utf8.encode p.body, r.headers⟩

/-- The draft for a request and an operation, or why there is none. -/
def draft (r : Response) (req : Received) (action : String) : Except RenderError Draft :=
  match r.body with
  | .empty => .ok (r.draftOf MediaType.text [])
  | .text s => .ok (r.draftOf (MediaType.ofText s) (Utf8.encode s))
  | .bytes b => .ok (r.draftOf (MediaType.ofBytes b) b)
  | .function f => do
    let p ← f.call req
    .ok (r.draftOfProduced p)
  | .structured v => do
    let (contentType, text) ← r.encode action req.format v
    .ok (r.draftOf contentType (Utf8.encode text))
  | .handler _ => .error (.invalidFunction "handler bodies produce their own response")

/-- The operation that names the envelope: the declared one, else that of the request. -/
def actionFor (req : Received) (declared : Option String) : String :=
  (declared <|> req.action).getD ""

/-- The draft or the message for a request. -/
def render (r : Response) (req : Received) (declared : Option String) : Rendered :=
  match r.body with
  | .handler f => .message (f req)
  | _ =>
    match r.draft req (actionFor req declared) with
    | .ok d => .draft d
    | .error e => .draft ((Fault.ofRenderError e).draft req.format)

/-- The diagnostic form of a header. -/
def debugHeader (h : String × String) : String :=
  "(" ++ Quoted.quote h.1 ++ ", " ++ Quoted.quote h.2 ++ ")"

/-- The diagnostic form of a response. -/
def debug (r : Response) : String :=
  Quoted.record "MockResponse"
    [("status", Quoted.optional (r.status.map toString)),
     ("content_type", Quoted.optional (r.contentType.map Quoted.quote)),
     ("encoding", r.encoding.debug),
     ("body", r.body.debug),
     ("do_not_wrap", toString r.unwrapped),
     ("root_tag", Quoted.optional (r.rootTag.map Quoted.quote)),
     ("extra_headers", Quoted.list (r.headers.map debugHeader))]

end Response

end CloudStub
