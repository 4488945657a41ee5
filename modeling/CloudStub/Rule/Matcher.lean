import CloudStub.JmesPath.Search
import CloudStub.Pattern.Reader
import CloudStub.Request.Received

/-!
# Matchers

A matcher is a set of conditions on a request.  It accepts a request that meets every declared
condition; what is not declared does not matter.

Declared parameters must be there with exactly the declared values.  A strict matcher also refuses
parameters that are not declared.  Payload conditions ask what a path finds in the JSON payload.

## Main Definitions

- `Expectation`: what a path has to find
- `Expectation.Fits`: what it means that it is found
- `Matcher`: a set of conditions
- `Matcher.Condition`, `Matcher.add`: one condition, and a matcher with one more
- `Matcher.accepts`: whether a request meets every condition
- `Matcher.summary`: the short description of a matcher
-/

namespace CloudStub

/-- What a path has to find in a payload. -/
inductive Expectation where
  /-- A value; numbers are compared as floating-point numbers, and null also stands for nothing. -/
  | equals (v : Json)
  /-- A value that passes a check. -/
  | check (f : Option Json → Bool)

namespace Expectation

/-- Whether a found value is the expected one. -/
def sameValue (expected : Json) (found : Option Json) : Bool :=
  match expected, found with
  | .null, none => true
  | _, none => false
  | .num a, some (.num b) => a.toFloat == b.toFloat
  | a, some b => a == b

/-- Whether the expectation holds of what was found. -/
def holds (e : Expectation) (found : Option Json) : Bool :=
  match e with
  | .equals v => sameValue v found
  | .check f => f found

/-- What an expectation asks of what was found.  A number asks for a number with the same
floating-point value, any other value for itself, and null also for nothing. -/
inductive Fits : Expectation → Option Json → Prop where
  /-- Nothing is found where null is expected. -/
  | nothing : Fits (.equals .null) none
  /-- A number, be it an integer or a floating-point number. -/
  | number {a b : Json.Number} (h : (a.toFloat == b.toFloat) = true) :
    Fits (.equals (.num a)) (some (.num b))
  /-- The expected value itself. -/
  | value {v w : Json} (hv : ∀ a, v ≠ .num a) (h : (v == w) = true) : Fits (.equals v) (some w)
  /-- Whatever passes the check. -/
  | check {f : Option Json → Bool} {found : Option Json} (h : f found = true) :
    Fits (.check f) found

theorem holds_iff {e : Expectation} {found : Option Json} :
    e.holds found = true ↔ e.Fits found := by
  constructor
  · intro h
    cases e with
    | check f => exact .check h
    | equals v =>
      cases found with
      | none =>
        cases v with
        | null => exact .nothing
        | _ => cases h
      | some w =>
        cases v with
        | num a =>
          cases w with
          | num b => exact .number h
          | _ => cases h
        | _ => exact .value nofun h
  · intro h
    cases h with
    | nothing => rfl
    | number h => exact h
    | check h => exact h
    | @value v w hv h =>
      cases v with
      | num a => exact absurd rfl (hv a)
      | _ => exact h

/-- The diagnostic form. -/
def debug : Expectation → String
  | .equals v => "Value(" ++ v.debug ++ ")"
  | .check _ => "Predicate(..)"

end Expectation

/-- A set of conditions on requests. -/
structure Matcher where
  /-- Whether undeclared parameters are refused. -/
  strict : Bool
  /-- The destination host. -/
  hostname : Option String
  /-- The service. -/
  service : Option String
  /-- The operation. -/
  action : Option String
  /-- The path. -/
  path : Option String
  /-- A pattern that the path contains. -/
  pathPattern : Option Pattern
  /-- The method. -/
  method : Option Http.Method
  /-- Whether the destination must be the instance metadata service. -/
  metadataOnly : Bool
  /-- The body. -/
  body : Option String
  /-- The declared parameters. -/
  params : Option Params
  /-- Paths into the payload with what they have to find. -/
  payload : List (String × Expectation)
  /-- A last check. -/
  predicate : Option (Received → Bool)
  /-- How many requests the rule of this matcher may answer. -/
  limit : Option Nat

namespace Matcher

/-- The matcher without conditions. -/
def any : Matcher :=
  ⟨false, none, none, none, none, none, none, false, none, none, [], none, none⟩

instance : Inhabited Matcher := ⟨any⟩

/-- One condition. -/
inductive Condition where
  /-- The destination host. -/
  | hostname (s : String)
  /-- The service. -/
  | service (s : String)
  /-- The operation. -/
  | action (s : String)
  /-- The path. -/
  | path (s : String)
  /-- A pattern that the path contains. -/
  | pathPattern (p : Pattern)
  /-- The method. -/
  | method (m : Http.Method)
  /-- The instance metadata service. -/
  | metadataOnly
  /-- The body. -/
  | body (s : String)
  /-- One more value of a parameter. -/
  | param (key value : String)
  /-- What a path into the payload has to find. -/
  | payload (path : String) (e : Expectation)
  /-- A last check. -/
  | predicate (f : Received → Bool)

/-- The matcher with one more condition. -/
def add (m : Matcher) : Condition → Matcher
  | .hostname s => { m with hostname := some s }
  | .service s => { m with service := some s }
  | .action s => { m with action := some s }
  | .path s => { m with path := some s }
  | .pathPattern p => { m with pathPattern := some p }
  | .method method => { m with method := some method }
  | .metadataOnly => { m with metadataOnly := true }
  | .body s => { m with body := some s }
  | .param key value => { m with params := some ((m.params.getD Dict.empty).push key value) }
  | .payload path e => { m with payload := m.payload ++ [(path, e)] }
  | .predicate f => { m with predicate := some f }

/-- The matcher with several more conditions. -/
def addAll (m : Matcher) (cs : List Condition) : Matcher := cs.foldl add m

/-- The matcher for an operation of a service. -/
def forAction (service action : String) : Matcher := any.addAll [.service service, .action action]

/-- The matcher that also refuses undeclared parameters. -/
def strictly (m : Matcher) : Matcher := { m with strict := true }

/-- The hosts of the instance metadata service. -/
def metadataHosts : List String := ["169.254.169.254", "fd00:ec2::254"]

/-- Whether a declared text is the actual one. -/
def same (declared actual : Option String) : Bool :=
  match declared with
  | none => true
  | some s => actual == some s

/-- The conditions on the destination, the operation and the body. -/
def meetsTarget (m : Matcher) (r : Received) : Bool :=
  same m.hostname (some r.hostname) && same m.service r.service && same m.action r.action &&
  same m.path (some r.path) && (m.method.all fun method => method = r.request.method) &&
  (!m.metadataOnly || metadataHosts.contains r.hostname) &&
  (m.pathPattern.all fun p => p.foundIn r.path) &&
  (m.body.all fun s => Utf8.encode s == r.request.body)

/-- Every declared parameter is there with exactly the declared values. -/
def meetsParams (declared : Option Params) (actual : Params) : Bool :=
  match declared with
  | none => true
  | some declared => declared.toList.all fun kv => actual.get? kv.1 == some kv.2

/-- What a path finds in a document, unless it is no path or its evaluation fails. -/
def find? (path : String) (document : Json) : Option (Option Json) :=
  match JmesPath.Path.compile path with
  | .ok p =>
    match p.search document with
    | .ok found => some found
    | .error _ => none
  | .error _ => none

/-- Whether a path finds in a document what it has to find. -/
def finds (document : Json) (condition : String × Expectation) : Bool :=
  match find? condition.1 document with
  | some found => condition.2.holds found
  | none => false

/-- The conditions on the payload; where there are any, there must be a payload. -/
def meetsPayload (m : Matcher) (r : Received) : Bool :=
  m.payload.isEmpty ||
    match r.payload with
    | some document => m.payload.all (finds document)
    | none => false

/-- Whether a request meets every condition. -/
def accepts (m : Matcher) (r : Received) : Bool :=
  m.meetsTarget r && (m.strict || meetsParams m.params r.params) && m.meetsPayload r &&
  (m.predicate.all fun f => f r) && (!m.strict || m.params.getD Dict.empty = r.params)

/-- Whether a path holds a number that does not fit, or comes upon one in a document. -/
def overruns (path : String) (document : Json) : Bool :=
  match JmesPath.Path.compile path with
  | .error .numberOutOfRange => true
  | .error _ => false
  | .ok p =>
    match p.search document with
    | .error .stepOverrun => true
    | _ => false

/-- Whether the first payload condition that fails in a document fails for such a number. -/
def overrunsFirst (document : Json) : List (String × Expectation) → Bool
  | [] => false
  | c :: rest => overruns c.1 document || (finds document c && overrunsFirst document rest)

/-- Whether judging a request comes upon a number that does not fit. -/
def overrunsOn (m : Matcher) (r : Received) : Bool :=
  m.meetsTarget r && (m.strict || meetsParams m.params r.params) &&
    r.payload.any fun document => overrunsFirst document m.payload

/-- The parameters as shown in descriptions. -/
def showParams (ps : Params) : String :=
  Quoted.entries (ps.toList.map fun kv =>
    (Quoted.quote kv.1, Quoted.list (kv.2.map Quoted.quote)))

/-- A declared text behind its label. -/
def labelled (label : String) (value : Option String) : List String :=
  match value with
  | none => []
  | some s => [label ++ "=" ++ s]

/-- The short description: the declared conditions. -/
def summary (m : Matcher) : String :=
  let parts :=
    (if m.strict then ["STRICT"] else []) ++ labelled "Service" m.service ++
    labelled "Action" m.action ++ (if m.metadataOnly then ["imds=true"] else []) ++
    labelled "Hostname" m.hostname ++ labelled "Path" m.path ++
    labelled "PathRegex" (m.pathPattern.map (·.source)) ++
    labelled "Method" (m.method.map (·.name)) ++ labelled "Params" (m.params.map showParams) ++
    labelled "Body" m.body
  if parts.isEmpty then "(any request)" else " ".intercalate parts

/-- The diagnostic form. -/
def debug (m : Matcher) : String :=
  let payload := m.payload.map fun c => "(" ++ Quoted.quote c.1 ++ ", " ++ c.2.debug ++ ")"
  Quoted.record "MockRequest"
    [("conditions", Quoted.quote m.summary), ("payload", Quoted.list payload),
     ("predicate", Quoted.optional (m.predicate.map fun _ => Quoted.quote "..")),
     ("max_match_count", Quoted.optional (m.limit.map toString))]

end Matcher

end CloudStub
