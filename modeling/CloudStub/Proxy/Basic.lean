import CloudStub.Proxy.Config
import CloudStub.Proxy.Tunnel
import CloudStub.Session.Basic

/-!
# Proxies

A proxy answers requests in the place of their destinations.  On its listener it takes three kinds
of requests: one that asks for a tunnel, one whose target names its destination, and one that
names none.  Only requests with a destination reach the session; inside a tunnel all do.

## Main Definitions

- `Route`: what becomes of a request on the listener
- `Proxy`: a running proxy
- `Proxy.handle`, `Proxy.handleWithin`: a request on the listener, and one in a tunnel
- `Proxy.identify`: the certificate that opens a tunnel
-/

namespace CloudStub

/-- What becomes of a request on the listener. -/
inductive Route where
  /-- A tunnel is opened. -/
  | tunnel (t : Tunnel)
  /-- A tunnel was asked for, but to nowhere. -/
  | noTunnel
  /-- The session answers. -/
  | session
  /-- The client takes the proxy for a destination. -/
  | direct
  deriving DecidableEq, Repr

/-- What becomes of a request. -/
def Route.of (r : Http.Request) : Route :=
  if r.method = Http.Method.connect then
    match r.uri.authority with
    | some authority => .tunnel ⟨authority⟩
    | none => .noTunnel
  else if r.uri.isAbsolute then .session
  else .direct

/-- A running proxy. -/
structure Proxy where
  /-- The address on which it listens. -/
  address : Http.SocketAddress
  /-- The session. -/
  session : Session
  /-- The authority that identifies it. -/
  authority : Authority
  /-- The last serial number that was given out. -/
  counter : Nat

namespace Proxy

/-- The proxy of a configuration, listening on a port.  It uses the shared authority or else a
fresh one. -/
def start (c : ProxyConfig) (port : Nat) (fresh : Authority) (counter : Nat) (rules : List Rule)
    (setting : DebugSetting) : Proxy :=
  { address := { c.address with port }
    session := .new rules c.failOnUnmatched (.new c.mode false) setting
    authority := c.authority.getD fresh
    counter }

/-- The address as clients write it. -/
def url (p : Proxy) : String := "http://" ++ p.address.text

/-- The text of the certificate that clients have to trust. -/
def rootPem (p : Proxy) : String := p.authority.root.pem

/-- A short answer in plain text. -/
def notice (status : Nat) (text : String) : Http.Response :=
  ⟨status, Http.Headers.empty.insert "content-type" (.ofText "text/plain; charset=utf-8"),
    Utf8.encode text⟩

/-- The answer to a client that takes the proxy for a destination. -/
def misuse : Http.Response :=
  notice 501 ("cloudmock is meant to be used as a proxy server. " ++
    "Don\x27t send requests directly to it.")

/-- The answer to a client that asks for a tunnel to nowhere. -/
def nowhere : Http.Response := notice 400 "CONNECT requires host:port"

/-- The answer that opens a tunnel. -/
def opened : Http.Response := ⟨200, .empty, []⟩

/-- The answer of the session to a request, and the proxy behind it. -/
def dispatch (p : Proxy) (r : Http.Request) : Http.Response × Proxy :=
  let (response, session) := p.session.handle r
  (response, { p with session })

/-- The answer to a request on the listener, and the proxy behind it. -/
def handle (p : Proxy) (r : Http.Request) : Http.Response × Proxy :=
  match Route.of r with
  | .tunnel _ => (opened, p)
  | .noTunnel => (nowhere, p)
  | .session => p.dispatch r
  | .direct => (misuse, p)

/-- The answer to a request in a tunnel, and the proxy behind it.  The connection ends with the
answer. -/
def handleWithin (p : Proxy) (t : Tunnel) (r : Http.Request) : Http.Response × Proxy :=
  let (response, p) := p.dispatch (t.complete r)
  ({ response with headers := response.headers.insert "connection" (.ofText "close") }, p)

/-- The blocks that were dumped so far, and the proxy without them. -/
def drain (p : Proxy) : List Block × Proxy :=
  let dumper := p.session.dumper
  (dumper.sink.blocks,
    { p with session.dumper.sink := .new dumper.sink.fails })

/-- The certificate that opens a tunnel, and the proxy behind it: it is for the name that the
client asks for, or else for the host of the tunnel. -/
def identify (p : Proxy) (t : Tunnel) (name : Option String) :
    Except InvalidHostname (Leaf × Proxy) := do
  let (leaf, authority, counter) ← p.authority.fetch p.counter (name.getD t.host)
  .ok (leaf, { p with authority, counter })

end Proxy

end CloudStub
