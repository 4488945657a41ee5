import CloudStub.CommandLine.Run
import CloudStub.Http.Wire
import Std.Async.Signal
import Std.Async.TCP
import Std.Time.DateTime.Timestamp

/-!
# The program

The outermost layer: real files, the real clock, real connections.  It starts a run, serves the
connections of its clients until it is interrupted, and ends with the exit code of the run.

Requests whose targets name their destination are answered on the connection.  A connection on
which a tunnel was opened ends there, since nothing is encrypted here.

## Main Definitions

- `Program.serve`: one connection
- `Program.accept`: all connections
- `main`: the program
-/

namespace CloudStub.Program

open Std.Async

/-- Whether an action succeeds. -/
def succeeds (action : IO Unit) : IO Bool :=
  try
    action
    pure true
  catch _ => pure false

instance : CommandLine.Files IO where
  read path := do
    try
      let contents ← IO.FS.readBinFile path
      pure (some contents.toList)
    catch _ => pure none
  write path contents := succeeds (IO.FS.writeBinFile path ⟨contents.toArray⟩)
  makeDirectory path := succeeds (IO.FS.createDirAll path)
  openLog path := succeeds (discard (IO.FS.Handle.mk path .append))

/-- The current moment, and the microseconds behind it. -/
def now : IO (Moment × Nat) := do
  let time ← Std.Time.Timestamp.now
  pure (time.val.second.val, time.val.nano.val.toNat / 1000)

/-- The environment variables that the program looks at. -/
def variableNames : List String := ["HOME", "RUST_LOG", "XDG_DATA_HOME", DebugSetting.variableName]

/-- The surroundings of a run.  Whether it can listen turns out when it tries. -/
def surroundings : IO CommandLine.Surroundings := do
  let found ← variableNames.filterMapM fun name => do
    return (← IO.getEnv name).map fun value => (name, value)
  let (moment, _) ← now
  pure { environment := Dict.ofList found, day := moment.dayText, freePort := 0
         canListen := fun _ => true, counter := 0 }

/-- Writes lines of the log, also to a file when there is one. -/
def log (file : Option String) (lines : List CommandLine.LogLine) : IO Unit :=
  lines.forM fun line => do
    let (moment, micros) ← now
    let text := line.written moment micros
    IO.eprintln text
    file.forM fun path => do
      let _ ← succeeds do
        let handle ← IO.FS.Handle.mk path .append
        handle.putStrLn text

/-- The values for a response that is written now. -/
def stamp : IO Http.Stamp := do
  let (moment, _) ← now
  let random ← IO.getRandomBytes 16
  pure (.new moment random.toList)

/-- The answer of the shared proxy to a request.  What it dumps goes to standard error. -/
def answer (shared : IO.Ref Proxy) (s : Http.Stamp) (r : Http.Request) : IO Http.Response := do
  let (response, blocks) ← shared.modifyGet fun p =>
    let (response, p) := p.handle r
    let (blocks, p) := p.drain
    ((response, blocks), p)
  blocks.forM fun block => IO.eprint (block.text s)
  pure response

/-- The most bytes that are taken from a connection at once. -/
def pieceSize : UInt64 := 65536

/-- The answer to bytes that are no request. -/
def rejection : Http.Response := ⟨400, .empty, []⟩

/-- Serves a connection to its end, given the bytes that have arrived and are not answered. -/
partial def serve (shared : IO.Ref Proxy) (client : TCP.Socket.Client) (bytes : Bytes) :
    Async Unit := do
  match Http.Wire.read bytes with
  | .incomplete =>
    match ← client.recv? pieceSize with
    | none => pure ()
    | some piece => serve shared client (bytes ++ piece.toList)
  | .malformed =>
    let s ← stamp
    client.send ⟨(Http.Wire.write s Http.Method.get rejection).toArray⟩
    client.shutdown
  | .request arrival =>
    let s ← stamp
    let response ← answer shared s arrival.request
    client.send ⟨(Http.Wire.write s arrival.request.method response).toArray⟩
    let isTunnel := arrival.request.method = Http.Method.connect && response.status = 200
    if Http.Wire.staysOpen arrival response && !isTunnel then serve shared client arrival.rest
    else client.shutdown

/-- Serves all connections. -/
partial def accept (shared : IO.Ref Proxy) (server : TCP.Socket.Server) : Async Unit := do
  let client ← server.accept
  background (serve shared client [])
  accept shared server

/-- An address in the form that sockets take. -/
def socketAddress (ip : Http.IpAddress) (port : Nat) : Std.Net.SocketAddress :=
  match ip with
  | .v4 a b c d => .v4 ⟨⟨#v[a.toUInt8, b.toUInt8, c.toUInt8, d.toUInt8]⟩, port.toUInt16⟩
  | .v6 words => .v6 ⟨⟨Vector.ofFn fun i => ((words[i.val]?).getD 0).toUInt16⟩, port.toUInt16⟩

/-- The port of a socket's address. -/
def portOf : Std.Net.SocketAddress → Nat
  | .v4 a => a.port.toNat
  | .v6 a => a.port.toNat

/-- A listening socket for a proxy, and the proxy with the port that it got. -/
def listen (p : Proxy) : IO (TCP.Socket.Server × Proxy) := do
  let server ← TCP.Socket.Server.mk
  server.bind (socketAddress p.address.ip p.address.port)
  server.listen 1024
  let port := portOf (← server.getSockName)
  pure (server, { p with address := { p.address with port } })

/-- Reports an ending and gives its exit code. -/
def finish (e : CommandLine.Ending) : IO UInt32 := do
  if !e.output.isEmpty then IO.println e.output
  e.errorText.forM fun text => IO.eprintln text
  pure e.exitCode.toUInt32

/-- Serves the clients of a proxy until the run is interrupted. -/
def serveUntilInterrupt (a : CommandLine.Arguments) (s : CommandLine.Surroundings)
    (server : TCP.Socket.Server) (p : Proxy) : IO UInt32 := do
  let shared ← IO.mkRef p
  let interrupt ← Signal.Waiter.mk .sigint false
  let _ ← (accept shared server).toIO
  IO.println (CommandLine.Ending.listening p).output
  (← IO.getStdout).flush
  let signal ← interrupt.wait
  let _ ← signal.block
  let last ← shared.get
  log ((a.logDirectory? s).map (CommandLine.logFile s))
    (CommandLine.interrupt (CommandLine.logFilter a s) last)
  pure (CommandLine.Ending.listening last).exitCode.toUInt32

/-- A run with some arguments. -/
def run (a : CommandLine.Arguments) : IO UInt32 := do
  let s ← surroundings
  let report ← CommandLine.runWith a s
  log ((a.logDirectory? s).map (CommandLine.logFile s)) report.log
  match report.ending with
  | .listening p =>
    match ← (listen p).toBaseIO with
    | .ok (server, p) => serveUntilInterrupt a s server p
    | .error _ => finish (.failed .cannotListen)
  | e => finish e

end CloudStub.Program

/-- The program. -/
def main (arguments : List String) : IO UInt32 :=
  match CloudStub.CommandLine.Arguments.parse arguments with
  | .ok a => CloudStub.Program.run a
  | .error r => CloudStub.Program.finish (.refused r)
