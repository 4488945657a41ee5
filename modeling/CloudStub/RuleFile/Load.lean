import CloudStub.Rule.Basic
import CloudStub.RuleFile.Entries
import CloudStub.Text.Base64

/-!
# Loading rules

The rules of a rule file are made from its entries one after another, and the first entry that
makes no rule is an error.  In one entry the request is judged before the response: its pattern,
its method, then its payload paths in order.

## Main Definitions

- `LoadError`: why there are no rules
- `RuleFile.ofContents`: the rule file of a file's contents
- `RequestEntry.toMatcher`, `ResponseEntry.toResponse`: what an entry stands for
- `RuleFile.toRules`: the rules of a rule file
-/

namespace CloudStub

/-- What is wrong with the body of a response. -/
inductive BodyConflict where
  /-- The body is given twice. -/
  | bothForms
  /-- A body is given beside an error. -/
  | besideFault
  deriving DecidableEq, Repr

/-- The wording of a conflict. -/
def BodyConflict.message : BodyConflict → String
  | bothForms => "body and body_base64 are mutually exclusive"
  | besideFault => "error responses cannot declare a body"

/-- Why there are no rules. -/
inductive LoadError where
  /-- There is no file. -/
  | notFound
  /-- The file is not text. -/
  | notText
  /-- The text is no rule file. -/
  | document (e : DocumentError)
  /-- A path pattern is malformed. -/
  | pattern
  /-- A payload path cannot be used. -/
  | path (e : JmesPath.PathError)
  /-- A method is malformed. -/
  | method (name : String)
  /-- A body is not Base64. -/
  | base64 (e : Base64.DecodeError)
  /-- The rule at an index has conflicting bodies. -/
  | conflict (index : Nat) (c : BodyConflict)
  deriving DecidableEq, Repr

/-- The wording of an error. -/
def LoadError.message : LoadError → String
  | notFound => "failed to read rules: not found"
  | notText => "failed to read rules: stream did not contain valid UTF-8"
  | document e => "invalid rule file: " ++ e.message
  | pattern => "invalid path regex"
  | path _ => "invalid payload path"
  | method name => "invalid HTTP method: " ++ Quoted.quote name
  | base64 e => "invalid base64 body: " ++ e.message
  | conflict index c => "invalid rule " ++ toString index ++ ": " ++ c.message

/-- Applies a function to an optional value. -/
def whenGiven {α β : Type} (f : α → Except LoadError β) :
    Option α → Except LoadError (Option β)
  | none => .ok none
  | some a => (f a).map some

namespace RequestEntry

/-- The pattern that a text spells. -/
def readPattern (source : String) : Except LoadError Pattern :=
  match Pattern.compile source with
  | some p => .ok p
  | none => .error .pattern

/-- The method that a text spells; letters may be small. -/
def readMethod (name : String) : Except LoadError Http.Method :=
  match Http.Method.ofText? (Ascii.upperText name) with
  | some m => .ok m
  | none => .error (.method name)

/-- The condition that a payload path has to find a value. -/
def readPayload (condition : String × Json) : Except LoadError (String × Expectation) :=
  match JmesPath.Path.compile condition.1 with
  | .ok _ => .ok (condition.1, .equals condition.2)
  | .error e => .error (.path e)

/-- The matcher that an entry stands for. -/
def toMatcher (e : RequestEntry) : Except LoadError Matcher := do
  let pathPattern ← whenGiven readPattern e.pathPattern
  let method ← whenGiven readMethod e.method
  let payload ← e.payload.toList.mapM readPayload
  .ok {
    strict := e.strict, hostname := e.hostname, service := e.service, action := e.action
    path := e.path, pathPattern, method, metadataOnly := e.metadataOnly, body := e.body
    params := e.params, payload, predicate := none, limit := e.limit }

end RequestEntry

namespace ResponseEntry

/-- The bytes of a text in Base64, with blanks around it. -/
def readBase64 (s : String) : Except LoadError Bytes :=
  match Base64.decode (Utf8.encode (String.ofList (Cut.trim s.toList))) with
  | .ok bs => .ok bs
  | .error e => .error (.base64 e)

/-- The body that an entry declares. -/
def toBody (e : ResponseEntry) : Except LoadError Body :=
  match e.body, e.base64 with
  | some (.str s), _ => .ok (.text s)
  | some v, _ => .ok (.structured v)
  | none, some s => (readBase64 s).map .bytes
  | none, none => .ok .empty

/-- The response that the entry at an index stands for.  An error takes nothing but the status
from the other fields. -/
def toResponse (e : ResponseEntry) (index : Nat) : Except LoadError Response :=
  if e.body.isSome && e.base64.isSome then .error (.conflict index .bothForms)
  else
    match e.fault with
    | some fault =>
      if e.body.isSome || e.base64.isSome then .error (.conflict index .besideFault)
      else .ok (.fault e.status fault.code fault.message)
    | none => do
      let body ← e.toBody
      .ok {
        status := e.status, contentType := e.contentType, encoding := e.encoding, body
        unwrapped := e.unwrapped, rootTag := e.rootTag, headers := e.headers.toList }

end ResponseEntry

/-- The rule that the entry at an index stands for. -/
def RuleEntry.toRule (e : RuleEntry) (index : Nat) : Except LoadError Rule := do
  let matcher ← e.request.toMatcher
  let response ← e.response.toResponse index
  .ok (.new matcher response)

namespace RuleFile

/-- The rule file of a file's contents; there are none when the file does not exist. -/
def ofContents : Option Bytes → Except LoadError RuleFile
  | none => .error .notFound
  | some bs =>
    match Utf8.decode? bs with
    | none => .error .notText
    | some text =>
      match parse text with
      | .ok f => .ok f
      | .error e => .error (.document e)

/-- The rules of entries, the first of which has an index. -/
def rulesFrom : Nat → List RuleEntry → Except LoadError (List Rule)
  | _, [] => .ok []
  | index, e :: rest => do
    let r ← e.toRule index
    let rs ← rulesFrom (index + 1) rest
    .ok (r :: rs)

/-- The rules of a rule file. -/
def toRules (f : RuleFile) : Except LoadError (List Rule) := rulesFrom 0 f.rules

end RuleFile

end CloudStub
