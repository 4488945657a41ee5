import CloudStub.Rule.Basic
import CloudStub.Session.Dump
import CloudStub.Session.Monitor

/-!
# Sessions

A session answers requests one after another.  Each request is classified and given to the first
rule that claims it; a request that no rule claims is answered with an error and remembered.
Requests and answers are dumped while dumping is on.

## Main Definitions

- `Session`: the state of a session
- `Session.handle`: one request
- `Session.Event`, `Session.step`, `Session.run`: requests and changes of the debug setting
-/

namespace CloudStub

/-- The state of a session. -/
structure Session where
  /-- The rules, in the order in which they are asked. -/
  rules : List Rule
  /-- The monitor. -/
  monitor : Monitor
  /-- The dumper. -/
  dumper : Dumper
  /-- The shared debug setting. -/
  setting : DebugSetting
  /-- The number of the next request. -/
  nextSeq : Nat

namespace Session

/-- A session without requests. -/
def new (rules : List Rule) (failOnUnmatched : Bool) (dumper : Dumper)
    (setting : DebugSetting) : Session :=
  ⟨rules, .new failOnUnmatched, dumper, setting, 1⟩

/-- The answer to a classified request, with the rules and the monitor behind it. -/
def answer (s : Session) (r : Received) : Http.Response × List Rule × Monitor :=
  match Rule.claimFirst r s.rules with
  | some (rule, rules) => (rule.respond r, rules, s.monitor)
  | none => ((Fault.unmatched.draft r.format).complete, s.rules, s.monitor.record r)

/-- The answer to a request, and the session behind it. -/
def handle (s : Session) (req : Http.Request) : Http.Response × Session :=
  let r := Received.ofRequest s.nextSeq req
  let (response, rules, monitor) := s.answer r
  let dumper := (s.dumper.dump s.setting (.request r)).dump s.setting (.response r.seq response)
  (response, { s with rules, monitor, dumper, nextSeq := s.nextSeq + 1 })

/-- Whether handling a request comes upon a number that does not fit in a rule. -/
def overrunsOn (s : Session) (req : Http.Request) : Bool :=
  Rule.anyOverrunsOn (Received.ofRequest s.nextSeq req) s.rules

/-- What can happen to a session. -/
inductive Event where
  /-- A request arrives. -/
  | request (req : Http.Request)
  /-- The shared switch is set. -/
  | setDebug (on : Bool)
  /-- The shared switch is reset. -/
  | resetDebug
  /-- The environment variable changes. -/
  | setVariable (value : Option Bytes)

/-- One event: the answer, if it is a request, and the session behind it. -/
def step (s : Session) : Event → Option Http.Response × Session
  | .request req => let (response, s) := s.handle req; (some response, s)
  | .setDebug on => (none, { s with setting := s.setting.set on })
  | .resetDebug => (none, { s with setting := s.setting.reset })
  | .setVariable value => (none, { s with setting := s.setting.setVariable value })

/-- Several events: the answers, and the session behind them. -/
def run (s : Session) : List Event → List Http.Response × Session
  | [] => ([], s)
  | e :: rest =>
    let (response, s) := s.step e
    let (responses, s) := s.run rest
    (response.toList ++ responses, s)

end Session

end CloudStub
