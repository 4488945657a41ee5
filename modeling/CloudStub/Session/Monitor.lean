import CloudStub.Request.Received

/-!
# Session monitors

A monitor keeps the descriptions of the requests that no rule claimed, and knows whether the
session failed.

## Main Definitions

- `Monitor`: what a session remembers about unmatched requests
- `Monitor.record`: the monitor behind one more of them
-/

namespace CloudStub

/-- What a session remembers about unmatched requests. -/
structure Monitor where
  /-- Whether an unmatched request fails the session. -/
  failOnUnmatched : Bool
  /-- Whether the session failed. -/
  failed : Bool
  /-- The descriptions of the unmatched requests, in the order of their arrival. -/
  unmatched : List String
  deriving DecidableEq, Inhabited, Repr

namespace Monitor

/-- The monitor of a session without requests. -/
def new (failOnUnmatched : Bool) : Monitor := ⟨failOnUnmatched, false, []⟩

/-- The monitor behind one more unmatched request. -/
def record (m : Monitor) (r : Received) : Monitor :=
  { m with
    failed := m.failed || m.failOnUnmatched
    unmatched := m.unmatched ++ [r.summary] }

end Monitor

end CloudStub
