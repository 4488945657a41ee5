import CloudStub.Reply.Fault
import CloudStub.Reply.Sniff

/-!
# Bodies of answers

A body is declared literally, as a structured value, as a function of the request, or as a handler
that makes the whole message.

## Main Definitions

- `Produced`: what a body function yields
- `BodyFunction`: functions from requests to bodies, in four shapes
- `BodyFunction.call`: the body that a function yields
- `Body`: a declared body
-/

namespace CloudStub

/-- What a body function yields: a body, and a status and a content type if it chose them. -/
structure Produced where
  /-- The body. -/
  body : String
  /-- The status. -/
  status : Option Nat
  /-- The content type. -/
  contentType : Option String
  deriving DecidableEq, Repr

/-- A function from requests to bodies. -/
inductive BodyFunction where
  /-- Yields a body. -/
  | body (f : Received → String)
  /-- Yields a body and a status. -/
  | bodyStatus (f : Received → String × Nat)
  /-- Yields a body, a status and a content type. -/
  | bodyStatusContentType (f : Received → String × Nat × String)
  /-- Yields values whose number decides what they mean. -/
  | values (f : Received → List Json)

namespace BodyFunction

/-- The status that a value stands for: an integer of three digits. -/
def status? : Json → Option Nat
  | .num (.int i) => if 100 ≤ i && i < 1000 then some i.toNat else none
  | _ => none

/-- The body that the first value stands for. -/
def unpackBody (first : Option Json) : Except RenderError String :=
  match first with
  | some (.str s) => .ok s
  | other => .error (.invalidFunction
      ("body must be a string, got " ++ Quoted.optional (other.map Json.debug)))

/-- The status that the second value stands for. -/
def unpackStatus : Option Json → Except RenderError (Option Nat)
  | none => .ok none
  | some v =>
    match status? v with
    | some n => .ok (some n)
    | none => .error (.invalidFunction ("invalid status code " ++ v.text))

/-- The content type that the third value stands for. -/
def unpackContentType : Option Json → Except RenderError (Option String)
  | none => .ok none
  | some (.str s) => .ok (some s)
  | some v => .error (.invalidFunction ("content type must be a string, got " ++ v.text))

/-- What a list of values stands for: a body, then a status, then a content type. -/
def unpack (values : List Json) : Except RenderError Produced :=
  if values.isEmpty || values.length > 3 then
    .error (.invalidFunction
      ("expected 1 to 3 return values, got " ++ toString values.length))
  else do
    let body ← unpackBody values[0]?
    let status ← unpackStatus values[1]?
    let contentType ← unpackContentType values[2]?
    .ok ⟨body, status, contentType⟩

/-- The body that a function yields for a request. -/
def call (f : BodyFunction) (r : Received) : Except RenderError Produced :=
  match f with
  | .body f => .ok ⟨f r, none, none⟩
  | .bodyStatus f => .ok ⟨(f r).1, some (f r).2, none⟩
  | .bodyStatusContentType f => .ok ⟨(f r).1, some (f r).2.1, some (f r).2.2⟩
  | .values f => unpack (f r)

/-- The diagnostic form of a function. -/
def debug : BodyFunction → String
  | .body _ => "BodyFn::Body(..)"
  | .bodyStatus _ => "BodyFn::BodyStatus(..)"
  | .bodyStatusContentType _ => "BodyFn::BodyStatusContentType(..)"
  | .values _ => "BodyFn::Values(..)"

end BodyFunction

/-- A declared body. -/
inductive Body where
  /-- No body. -/
  | empty
  /-- A text as it is. -/
  | text (s : String)
  /-- Bytes as they are. -/
  | bytes (b : Bytes)
  /-- A structured value, encoded to fit the request. -/
  | structured (v : Json)
  /-- A function of the request. -/
  | function (f : BodyFunction)
  /-- A handler that makes the whole message. -/
  | handler (f : Received → Http.Response)

instance : Inhabited Body := ⟨.empty⟩

/-- The diagnostic form of a body. -/
def Body.debug : Body → String
  | .empty => "Empty"
  | .text s => "Text(" ++ Quoted.quote s ++ ")"
  | .bytes b => "Bytes(" ++ toString b.length ++ " bytes)"
  | .structured v => "Structured(" ++ v.debug ++ ")"
  | .function f => f.debug
  | .handler _ => "Handler(..)"

end CloudStub
