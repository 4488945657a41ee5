import CloudStub.Http.Address
import CloudStub.Http.Message
import CloudStub.Json.Outline
import CloudStub.Request.Credential
import CloudStub.Request.Form

/-!
# Received requests

What an intercepted request asks for: its destination, the cloud service, operation and region it
names, its parameters, its JSON payload, and the format in which its sender expects the answer.

Service and region come from the credential scope of the authorization field.  The operation comes
from the target field `<version>.<operation>`, else from the `Action` parameter of a form body.
A content type that mentions JSON is answered in JSON.  A form body that supplied the operation of
a known service is answered in XML.

## Main Definitions

- `Format`: the format of an answer
- `Received`: a classified request
- `Received.ofRequest`: classification
- `Received.summary`: the short description of a request
-/

namespace CloudStub

/-- The format in which an answer is expected. -/
inductive Format where
  /-- Plain text: nothing could be inferred. -/
  | text
  /-- JSON. -/
  | json
  /-- XML in an envelope. -/
  | xml
  deriving DecidableEq, Inhabited, Repr

namespace MediaType

/-- XML answers. -/
def xml : String := "text/xml"

/-- JSON answers. -/
def json : String := "application/json"

/-- Plain text, the choice when nothing else fits. -/
def text : String := "text/plain"

/-- Form bodies. -/
def form : String := "application/x-www-form-urlencoded"

/-- A content type without its parameters. -/
def ofContentType (contentType : String) : String :=
  String.ofList (Cut.trim (contentType.toList.takeWhile (· != ';')))

end MediaType

/-- The content type of a format. -/
def Format.contentType : Format → String
  | .text => MediaType.text
  | .json => MediaType.json
  | .xml => MediaType.xml

/-- A classified request. -/
structure Received where
  /-- The number of the request, counted from one. -/
  seq : Nat
  /-- The request as it arrived. -/
  request : Http.Request
  /-- The destination host, without port and brackets. -/
  hostname : String
  /-- The path, without the query. -/
  path : String
  /-- The operation. -/
  action : Option String
  /-- The service. -/
  service : Option String
  /-- The region. -/
  region : Option String
  /-- The parameters of the form body, then those of the query. -/
  params : Params
  /-- The parameters of the form body alone. -/
  formParams : Params
  /-- The JSON payload, when there is one that could be read. -/
  payload : Option Json
  /-- The format in which the answer is expected. -/
  format : Format
  deriving Inhabited

namespace Received

/-- The field that names the operation. -/
def targetField : String := "x-amz-target"

/-- A host field without its port.  A bracketed literal ends at its bracket; a colon begins a port
only when it is the only colon and a port number follows. -/
def stripPort (host : List Char) : List Char :=
  match host with
  | '[' :: _ =>
    if host.contains ']' then host.takeWhile (· != ']') ++ [']'] else host
  | _ =>
    match Cut.last? ':' host with
    | some (name, port) =>
      if !name.contains ':' && (Http.readPort? port).isSome then name else host
    | none => host

/-- Without the brackets at both ends. -/
def stripBrackets (host : List Char) : List Char :=
  ((host.dropWhile (· == '[')).reverse.dropWhile (· == ']')).reverse

/-- The destination host: from the target, else from the host field. -/
def hostOf (req : Http.Request) : String :=
  let host :=
    match req.uri.host? with
    | some host => host.toList
    | none => stripPort ((req.field? "host").getD "").toList
  String.ofList (stripBrackets host)

/-- The content type, empty when it is missing or not readable. -/
def contentTypeOf (req : Http.Request) : String := (req.field? "content-type").getD ""

/-- Whether the body is declared to be a form. -/
def isForm (req : Http.Request) : Bool :=
  Ascii.eqIgnoreCase (MediaType.ofContentType (contentTypeOf req)) MediaType.form

/-- Whether the content type mentions JSON. -/
def isJson (req : Http.Request) : Bool := Cut.contains "json".toList (contentTypeOf req).toList

/-- The pairs of the form body; none when the method carries no form. -/
def formPairs (req : Http.Request) : List (String × String) :=
  if isForm req && req.method.carriesForm then Form.pairs req.body else []

/-- The pairs of the query. -/
def queryPairs (req : Http.Request) : List (String × String) :=
  match req.uri.query with
  | some query => Form.pairs (Utf8.encode query)
  | none => []

/-- Region and service of the credential scope. -/
def scopeOf (req : Http.Request) : Option (String × String) :=
  (req.field? "authorization").bind Credential.regionAndService?

/-- The operation that the target field names: what follows its first dot. -/
def targetAction (req : Http.Request) : Option String :=
  (req.field? targetField).bind fun target =>
    (Cut.first? '.' target.toList).map fun p => String.ofList p.2

/-- The operation that the form body names. -/
def formAction (formParams : Params) : Option String :=
  (formParams.get? "Action").bind List.head?

/-- The JSON payload. -/
def payloadOf (req : Http.Request) : Option Json :=
  if isJson req && !req.body.isEmpty then Json.parseBytes? req.body else none

/-- Classifies the request with the given number. -/
def ofRequest (seq : Nat) (req : Http.Request) : Received :=
  let formParams := Params.append Dict.empty (formPairs req)
  let scope := scopeOf req
  let target := targetAction req
  let action := target <|> formAction formParams
  let format :=
    if isJson req then .json
    else if target.isNone && action.isSome && scope.isSome && isForm req then .xml
    else .text
  { seq
    request := req
    hostname := hostOf req
    path := req.uri.path
    action
    service := scope.map (·.2)
    region := scope.map (·.1)
    params := Params.append formParams (queryPairs req)
    formParams
    payload := payloadOf req
    format }

/-- The short description: service and operation when both are known, else method and place. -/
def summary (r : Received) : String :=
  match r.service, r.action with
  | some service, some action => service ++ ":" ++ action
  | _, _ => r.request.method.name ++ " " ++ r.hostname ++ r.path

/-- The first value of a field, as far as it is readable; the name may be in any case. -/
def field? (r : Received) (name : String) : Option String :=
  (Http.fieldNameOfText? name).bind r.request.field?

/-- The first value of a parameter. -/
def param? (r : Received) (name : String) : Option String :=
  (r.params.get? name).bind List.head?

end Received

end CloudStub
