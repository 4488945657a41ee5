import CloudStub.Reply.Response
import CloudStub.Request.Received
import CloudStub.RuleFile.Document

/-!
# Entries of a rule file

A rule file is a typed document with a list of rules.  Each rule says which requests it answers and
what it answers.  Fields that are not written keep their defaults, and a field that is not known is
an error.

## Main Definitions

- `FaultEntry`, `ResponseEntry`, `RequestEntry`, `RuleEntry`: the parts of a rule as written
- `RuleFile`: a rule file as written
- `RuleFile.parse`: the rule file of a text
-/

namespace CloudStub

/-- An error to answer. -/
structure FaultEntry where
  /-- The code of the error. -/
  code : String
  /-- The message of the error. -/
  message : String
  deriving DecidableEq, Inhabited, Repr

/-- What a rule answers, as written. -/
structure ResponseEntry where
  /-- The status. -/
  status : Option Nat
  /-- The content type. -/
  contentType : Option String
  /-- The encoding of a structured body. -/
  encoding : Encoding
  /-- The body: literal when it is a text, else structured. -/
  body : Option Json
  /-- The body in Base64. -/
  base64 : Option String
  /-- Whether XML goes without the envelope. -/
  unwrapped : Bool
  /-- The root element of XML without the envelope. -/
  rootTag : Option String
  /-- Further headers. -/
  headers : Dict String
  /-- An error in place of a body. -/
  fault : Option FaultEntry

instance : Inhabited ResponseEntry :=
  ⟨⟨none, none, .automatic, none, none, false, none, Dict.empty, none⟩⟩

/-- Which requests a rule answers, as written. -/
structure RequestEntry where
  /-- Whether undeclared parameters are refused. -/
  strict : Bool
  /-- The destination host. -/
  hostname : Option String
  /-- The service. -/
  service : Option String
  /-- The operation. -/
  action : Option String
  /-- The path. -/
  path : Option String
  /-- A pattern that the path contains. -/
  pathPattern : Option String
  /-- The method. -/
  method : Option String
  /-- Whether the destination must be the instance metadata service. -/
  metadataOnly : Bool
  /-- The body. -/
  body : Option String
  /-- The parameters. -/
  params : Option Params
  /-- Paths into the payload with the values that they have to find. -/
  payload : Dict Json
  /-- How many requests the rule may answer. -/
  limit : Option Nat

instance : Inhabited RequestEntry :=
  ⟨⟨false, none, none, none, none, none, none, false, none, none, Dict.empty, none⟩⟩

/-- A rule as written. -/
structure RuleEntry where
  /-- Which requests it answers. -/
  request : RequestEntry
  /-- What it answers. -/
  response : ResponseEntry
  deriving Inhabited

/-- A rule file as written. -/
structure RuleFile where
  /-- Whether an unmatched request fails the session. -/
  failOnUnmatched : Option Bool
  /-- The rules in the order in which they are asked. -/
  rules : List RuleEntry
  deriving Inhabited

/-- The fields of an error. -/
def FaultEntry.schema : Schema FaultEntry where
  name := "ErrorSpec"
  start := default
  fields :=
    [.mandatory "code" Reader.text fun e s => { e with code := s },
     .mandatory "message" Reader.text fun e s => { e with message := s }]

/-- The names of the encodings. -/
def Encoding.names : List (String × Encoding) :=
  [("default", .automatic), ("json", .json), ("xml", .xml), ("text", .text)]

/-- The fields of a response. -/
def ResponseEntry.schema : Schema ResponseEntry where
  name := "ResponseSpec"
  start := default
  fields :=
    [.nullable "status" (Reader.natural 16) fun e n => { e with status := n },
     .nullable "content_type" Reader.text fun e s => { e with contentType := s },
     .defaulted "encoding" (Reader.variant Encoding.names) fun e x => { e with encoding := x },
     .nullable "body" Reader.json fun e v => { e with body := v },
     .nullable "body_base64" Reader.text fun e s => { e with base64 := s },
     .defaulted "do_not_wrap" Reader.truth fun e b => { e with unwrapped := b },
     .nullable "root_tag" Reader.text fun e s => { e with rootTag := s },
     .defaulted "headers" (Reader.table Reader.text) fun e h => { e with headers := h },
     .nullable "error" FaultEntry.schema.read fun e f => { e with fault := f }]

/-- The fields of a matcher. -/
def RequestEntry.schema : Schema RequestEntry where
  name := "RequestSpec"
  start := default
  fields :=
    [.defaulted "strict" Reader.truth fun e b => { e with strict := b },
     .nullable "hostname" Reader.text fun e s => { e with hostname := s },
     .nullable "service" Reader.text fun e s => { e with service := s },
     .nullable "action" Reader.text fun e s => { e with action := s },
     .nullable "path" Reader.text fun e s => { e with path := s },
     .nullable "path_regex" Reader.text fun e s => { e with pathPattern := s },
     .nullable "method" Reader.text fun e s => { e with method := s },
     .defaulted "imds" Reader.truth fun e b => { e with metadataOnly := b },
     .nullable "body" Reader.text fun e s => { e with body := s },
     .nullable "params" (Reader.table Reader.paramValues) fun e ps => { e with params := ps },
     .defaulted "payload" (Reader.table Reader.json) fun e vs => { e with payload := vs },
     .nullable "max_match_count" (Reader.natural 64) fun e n => { e with limit := n }]

/-- The fields of a rule. -/
def RuleEntry.schema : Schema RuleEntry where
  name := "RuleSpec"
  start := default
  fields :=
    [.defaulted "request" RequestEntry.schema.read fun e r => { e with request := r },
     .defaulted "response" ResponseEntry.schema.read fun e r => { e with response := r }]

namespace RuleFile

/-- The fields of a rule file. -/
def schema : Schema RuleFile where
  name := "RuleFile"
  start := default
  fields :=
    [.defaulted "fail_on_unmatched" Reader.truth.optional
       fun f b => { f with failOnUnmatched := b },
     .defaulted "rules" (Reader.list RuleEntry.schema.read) fun f rs => { f with rules := rs }]

/-- The rule file of a text. -/
def parse (text : String) : Except DocumentError RuleFile := schema.parse text

/-- Whether an unmatched request fails the session: it does unless the file says otherwise. -/
def failsOnUnmatched (f : RuleFile) : Bool := f.failOnUnmatched.getD true

end RuleFile

end CloudStub
