import CloudStub.Authority.Basic
import CloudStub.Session.Dump

/-!
# Proxy configurations

Where a proxy listens, which certificate authority it uses, when it dumps traffic, and whether an
unmatched request fails its session.

## Main Definitions

- `ProxyConfig`: a configuration
- `ProxyConfig.standard`: any free port of the loopback address
- `ProxyConfig.debug`: the diagnostic form
-/

namespace CloudStub

/-- A configuration of a proxy. -/
structure ProxyConfig where
  /-- The address to listen on; port zero stands for any free port. -/
  address : Http.SocketAddress
  /-- An authority that other proxies use too; without one the proxy makes its own. -/
  authority : Option Authority
  /-- When traffic is dumped. -/
  mode : DebugMode
  /-- Whether an unmatched request fails the session. -/
  failOnUnmatched : Bool

namespace ProxyConfig

/-- A port of the loopback address. -/
def loopback (port : Nat) : Http.SocketAddress := ⟨.v4 127 0 0 1, 0, port⟩

/-- The configuration where nothing is chosen. -/
def standard : ProxyConfig := ⟨loopback 0, none, .environment, true⟩

/-- The configuration with a port of the loopback address. -/
def withPort (c : ProxyConfig) (port : Nat) : ProxyConfig := { c with address := loopback port }

/-- The diagnostic form. -/
def debug (c : ProxyConfig) : String :=
  let truth := fun (b : Bool) => if b then "true" else "false"
  Quoted.record "ProxyConfig"
    [("addr", c.address.text), ("authority", truth c.authority.isSome),
     ("debug", c.mode.debug), ("fail_on_unmatched", truth c.failOnUnmatched)]

end ProxyConfig

end CloudStub
