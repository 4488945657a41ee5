import CloudStub.Http.Message

/-!
# Tunnels

A client opens a tunnel to an authority and then talks to it as if to the destination itself: its
targets name a path alone.  The proxy answers in the place of the destination, so it completes
the targets with the authority, and it identifies itself by a certificate for the authority's
host.

## Main Definitions

- `Tunnel`: the authority of a tunnel
- `Tunnel.host`: the host that the tunnel leads to
- `Tunnel.complete`: a request with its complete target
-/

namespace CloudStub

/-- A tunnel. -/
structure Tunnel where
  /-- The authority to which the tunnel leads. -/
  authority : String
  deriving DecidableEq, Repr

namespace Tunnel

/-- A host without the brackets around it. -/
def bare (host : List Char) : List Char :=
  match host with
  | '[' :: rest => if rest.getLast? = some ']' then rest.dropLast else host
  | _ => host

/-- The host to which the tunnel leads, without brackets. -/
def host (t : Tunnel) : String :=
  String.ofList (bare (Http.Authority.host t.authority.toList))

/-- The complete target of a request in the tunnel: a target that names a scheme and an authority
stays. -/
def target (t : Tunnel) (u : Http.Uri) : Http.Uri :=
  if u.isAbsolute then u else u.within "https" t.authority

/-- A request in the tunnel with its complete target. -/
def complete (t : Tunnel) (r : Http.Request) : Http.Request := { r with uri := t.target r.uri }

end Tunnel

end CloudStub
