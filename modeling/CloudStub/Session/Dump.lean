import CloudStub.Rule.Matcher

/-!
# Traffic dumps

While dumping is on, every request and every answer is written to a sink as a readable block.
Whether dumping is on depends on the mode of the session and, where the mode leaves it open, on a
switch that all sessions share or else on the environment variable `CLOUDMOCK_DEBUG`.

## Main Definitions

- `DebugSetting`: the shared switch and the environment variable
- `DebugMode`: the mode of a session
- `Block`, `Block.text`: a block and its text
- `Sink`, `Dumper`: where blocks go
-/

namespace CloudStub

/-- What all sessions share: a switch, and the environment variable that counts while the switch
is not set. -/
structure DebugSetting where
  /-- The switch, while it is set. -/
  switch : Option Bool
  /-- The bytes of the environment variable, when it exists. -/
  environment : Option Bytes
  deriving DecidableEq, Repr

namespace DebugSetting

/-- The name of the environment variable. -/
def variableName : String := "CLOUDMOCK_DEBUG"

/-- The setting at the start: the switch is not set. -/
def initial (environment : Option Bytes) : DebugSetting := ⟨none, environment⟩

/-- Whether dumping is on where a session leaves it open: any text but `false` in the variable
turns it on, and a value that is not text does not. -/
def isOn (s : DebugSetting) : Bool :=
  match s.switch with
  | some b => b
  | none =>
    match s.environment.bind Utf8.decode? with
    | some value => value != "false"
    | none => false

/-- The setting with the switch set. -/
def set (s : DebugSetting) (on : Bool) : DebugSetting := { s with switch := some on }

/-- The setting with the switch not set. -/
def reset (s : DebugSetting) : DebugSetting := { s with switch := none }

/-- The setting with another value of the variable. -/
def setVariable (s : DebugSetting) (value : Option Bytes) : DebugSetting :=
  { s with environment := value }

end DebugSetting

/-- The mode of a session. -/
inductive DebugMode where
  /-- The shared setting decides, anew at every block. -/
  | environment
  /-- Dumping is on. -/
  | enabled
  /-- Dumping is off. -/
  | disabled
  deriving DecidableEq, Inhabited, Repr

namespace DebugMode

/-- The mode that a truth value stands for. -/
def ofBool (on : Bool) : DebugMode := if on then .enabled else .disabled

/-- Whether dumping is on. -/
def isOn (m : DebugMode) (s : DebugSetting) : Bool :=
  match m with
  | .environment => s.isOn
  | .enabled => true
  | .disabled => false

/-- The diagnostic form. -/
def debug : DebugMode → String
  | .environment => "FromEnvironment"
  | .enabled => "Enabled"
  | .disabled => "Disabled"

end DebugMode

/-- A block of a dump. -/
inductive Block where
  /-- A request. -/
  | request (r : Received)
  /-- The answer to the request with a number. -/
  | response (seq : Nat) (r : Http.Response)
  deriving Inhabited

namespace Block

/-- Lines of text, each with its end. -/
def lines (ls : List String) : String := String.join (ls.map (· ++ "\n"))

/-- The lines of a header section. -/
def headerLines (h : Http.Headers Bytes) : List String :=
  h.toList.map fun f => f.1 ++ ": " ++ Utf8.decodeLossy f.2

/-- The lines of a body behind an empty line; none for an empty body. -/
def bodyLines (body : Bytes) : List String :=
  if body.isEmpty then [] else ["", Utf8.decodeLossy body]

/-- The lines of a request. -/
def requestLines (r : Received) : List String :=
  ["--- CLOUDMOCK RECEIVED REQUEST #" ++ toString r.seq ++ " ---",
   "Operation: " ++ r.service.getD "?" ++ ":" ++ r.action.getD "?"] ++
  (match r.region with
    | some region => ["Region: " ++ region]
    | none => []) ++
  [r.request.method.name ++ " " ++ r.request.uri.text, "Host: " ++ r.hostname] ++
  headerLines r.request.headers ++
  (if r.params.isEmpty then [] else ["Params: " ++ Matcher.showParams r.params]) ++
  bodyLines r.request.body ++ ["--------------------------------------"]

/-- The lines of an answer. -/
def responseLines (s : Http.Stamp) (seq : Nat) (r : Http.Response) : List String :=
  ["--- CLOUDMOCK RESPONSE #" ++ toString seq ++ " ---",
   "HTTP/1.1 " ++ Http.statusText r.status] ++
  headerLines (r.headers.map (·.stamped s)) ++ bodyLines r.body ++
  ["------------------------------"]

/-- The text of a block. -/
def text (s : Http.Stamp) : Block → String
  | .request r => lines (requestLines r)
  | .response seq r => lines (responseLines s seq r)

end Block

/-- Where blocks go.  Any of the writes may fail. -/
structure Sink where
  /-- Whether the write with a number fails, counted from zero. -/
  fails : Nat → Bool
  /-- How many writes were attempted. -/
  attempts : Nat
  /-- The blocks written, in order. -/
  blocks : List Block
  deriving Inhabited

/-- A sink without blocks. -/
def Sink.new (fails : Nat → Bool) : Sink := ⟨fails, 0, []⟩

/-- The sink behind an attempt to write a block.  A failure is not reported. -/
def Sink.write (s : Sink) (b : Block) : Sink :=
  { s with
    attempts := s.attempts + 1
    blocks := if s.fails s.attempts then s.blocks else s.blocks ++ [b] }

/-- A mode with a sink. -/
structure Dumper where
  /-- The mode. -/
  mode : DebugMode
  /-- The sink. -/
  sink : Sink
  deriving Inhabited

namespace Dumper

/-- A dumper that has written nothing, and whose sink fails always or never. -/
def new (mode : DebugMode) (broken : Bool) : Dumper := ⟨mode, .new fun _ => broken⟩

/-- The dumper behind a block, which is written while dumping is on. -/
def dump (d : Dumper) (s : DebugSetting) (b : Block) : Dumper :=
  if d.mode.isOn s then { d with sink := d.sink.write b } else d

end Dumper

end CloudStub
