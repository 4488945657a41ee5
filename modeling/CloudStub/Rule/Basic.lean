import CloudStub.Reply.Response
import CloudStub.Rule.Matcher

/-!
# Rules

A rule answers the requests that its matcher accepts, as often as its limit allows.

## Main Definitions

- `Rule`: a matcher, a response, and how many requests the rule has claimed
- `Rule.claim?`: the rule behind a request that it claims
- `Rule.respond`: the answer to a request
- `Rule.claimFirst`: the first rule of a list that claims a request
-/

namespace CloudStub

/-- A rule. -/
structure Rule where
  /-- Which requests the rule answers. -/
  matcher : Matcher
  /-- What it answers. -/
  response : Response
  /-- How many requests it has claimed. -/
  count : Nat
  deriving Inhabited

namespace Rule

/-- A rule that has not claimed a request. -/
def new (matcher : Matcher) (response : Response) : Rule := ⟨matcher, response, 0⟩

/-- Answers an operation of a service with a body. -/
def simple (service action : String) (body : Body) : Rule :=
  new (.forAction service action) (.ofBody body)

/-- Answers an operation of a service with an error. -/
def failureWithCode (status : Option Nat) (service action code message : String) : Rule :=
  new (.forAction service action) (.fault status code message)

/-- Answers an operation of a service with the error that access is denied. -/
def failure (service action : String) : Rule :=
  failureWithCode none service action "AccessDenied" "This mock was requested to fail"

/-- Whether the limit is reached. -/
def isExhausted (r : Rule) : Bool := r.matcher.limit.any fun limit => limit ≤ r.count

/-- The rule behind a request, if it claims the request. -/
def claim? (r : Rule) (req : Received) : Option Rule :=
  if !r.isExhausted && r.matcher.accepts req then some { r with count := r.count + 1 } else none

/-- Whether judging a request comes upon a number that does not fit. -/
def overrunsOn (r : Rule) (req : Received) : Bool := !r.isExhausted && r.matcher.overrunsOn req

/-- The answer to a request. -/
def respond (r : Rule) (req : Received) : Http.Response :=
  (r.response.render req r.matcher.action).toMessage

/-- The first rule that claims a request, with all rules behind the request. -/
def claimFirst (req : Received) : List Rule → Option (Rule × List Rule)
  | [] => none
  | r :: rest =>
    match r.claim? req with
    | some claimed => some (claimed, claimed :: rest)
    | none => (claimFirst req rest).map fun p => (p.1, r :: p.2)

/-- Whether judging a request by each rule up to the one that claims it comes upon a number that
does not fit. -/
def anyOverrunsOn (req : Received) : List Rule → Bool
  | [] => false
  | r :: rest => r.overrunsOn req || ((r.claim? req).isNone && anyOverrunsOn req rest)

end Rule

end CloudStub
