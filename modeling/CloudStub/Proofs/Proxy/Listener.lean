import CloudStub.Proofs.Session.History
import CloudStub.Proxy.Basic

/-!
# Requests on the listener

The listener stands between the clients and the session.  It hands on the requests that name their
destination and answers all others by itself.  So whatever mix of requests arrives, the session
goes through the run that the requests with a destination make alone.

## Main Definitions

- `Proxy.serve`: the answers to several requests on the listener
- `Proxy.Destined`: a request that names its destination and asks for no tunnel
- `Proxy.dispatched`: what the session gets to see of several requests
- `Proxy.turnedBack`: the answer to a request that does not reach the session

## Main Statements

- `Proxy.handle_of_destined`, `Proxy.handle_of_not_destined`: one request of either kind
- `Proxy.serve_simulates`: the listener simulates the run of its session
-/

namespace CloudStub.Proxy

/-! ### Kinds of requests -/

/-- A request that names its destination, by a scheme and an authority, and asks for no tunnel. -/
def Destined (r : Http.Request) : Prop :=
  r.method ≠ .connect ∧ r.uri.scheme.isSome = true ∧ r.uri.authority.isSome = true

instance (r : Http.Request) : Decidable (Destined r) := inferInstanceAs (Decidable (_ ∧ _ ∧ _))

/-- The answer to a request that does not reach the session. -/
def turnedBack (r : Http.Request) : Http.Response :=
  if r.method = .connect then if r.uri.authority.isSome then opened else nowhere else misuse

/-- What the session gets to see of several requests. -/
def dispatched (reqs : List Http.Request) : List Session.Event :=
  (reqs.filter fun r => Destined r).map .request

/-- The answers to several requests on the listener, and the proxy behind them. -/
def serve (p : Proxy) : List Http.Request → List Http.Response × Proxy
  | [] => ([], p)
  | r :: rest =>
    let (response, p) := p.handle r
    let (responses, p) := p.serve rest
    (response :: responses, p)

theorem isAbsolute_iff (u : Http.Uri) :
    u.isAbsolute = true ↔ u.scheme.isSome = true ∧ u.authority.isSome = true :=
  Bool.and_eq_true_iff

/-! ### One request -/

theorem route_eq_session {r : Http.Request} (h : Destined r) : Route.of r = .session := by
  obtain ⟨hmethod, habsolute⟩ := h
  rw [Route.of, if_neg hmethod, if_pos ((isAbsolute_iff _).2 habsolute)]

/-- A request with a destination is answered by the session. -/
theorem handle_of_destined (p : Proxy) {r : Http.Request} (h : Destined r) :
    p.handle r = ((p.session.handle r).1, { p with session := (p.session.handle r).2 }) := by
  rw [handle, route_eq_session h]
  rfl

/-- A request without a destination, or one for a tunnel, leaves the proxy as it is. -/
theorem handle_of_not_destined (p : Proxy) {r : Http.Request} (h : ¬ Destined r) :
    p.handle r = (turnedBack r, p) := by
  unfold handle Route.of turnedBack
  by_cases hmethod : r.method = .connect
  · cases r.uri.authority with
    | none => simp [hmethod]
    | some authority => simp [hmethod]
  · have habsolute : ¬ r.uri.isAbsolute = true :=
      fun habsolute => h ⟨hmethod, (isAbsolute_iff _).1 habsolute⟩
    simp [hmethod, habsolute]

/-! ### Several requests -/

theorem serve_cons (p : Proxy) (r : Http.Request) (rest : List Http.Request) :
    p.serve (r :: rest) =
      ((p.handle r).1 :: ((p.handle r).2.serve rest).1, ((p.handle r).2.serve rest).2) := rfl

theorem length_serve (p : Proxy) (reqs : List Http.Request) :
    (p.serve reqs).1.length = reqs.length := by
  induction reqs generalizing p with
  | nil => rfl
  | cons r rest ih => rw [serve_cons, List.length_cons, ih, List.length_cons]

theorem dispatched_cons_of_destined {r : Http.Request} (h : Destined r)
    (rest : List Http.Request) : dispatched (r :: rest) = .request r :: dispatched rest := by
  simp [dispatched, h]

theorem dispatched_cons_of_not_destined {r : Http.Request} (h : ¬ Destined r)
    (rest : List Http.Request) : dispatched (r :: rest) = dispatched rest := by
  simp [dispatched, h]

theorem run_dispatched_cons (s : Session) {r : Http.Request} (h : Destined r)
    (rest : List Http.Request) :
    s.run (dispatched (r :: rest)) =
      ((s.handle r).1 :: ((s.handle r).2.run (dispatched rest)).1,
        ((s.handle r).2.run (dispatched rest)).2) := by
  rw [dispatched_cons_of_destined h]
  rfl

/-- The session behind several requests on the listener is the one that the requests with a
destination lead to. -/
theorem serve_session (p : Proxy) (reqs : List Http.Request) :
    (p.serve reqs).2 = { p with session := (p.session.run (dispatched reqs)).2 } := by
  induction reqs generalizing p with
  | nil => rfl
  | cons r rest ih =>
    rw [serve_cons]
    by_cases h : Destined r
    · rw [handle_of_destined p h, run_dispatched_cons _ h, ih]
    · rw [handle_of_not_destined p h, dispatched_cons_of_not_destined h, ih]

/-- The answers to the requests with a destination are those of the session, in order. -/
theorem serve_answers (p : Proxy) (reqs : List Http.Request) :
    ((reqs.zip (p.serve reqs).1).filter fun e => Destined e.1).map Prod.snd =
      (p.session.run (dispatched reqs)).1 := by
  induction reqs generalizing p with
  | nil => rfl
  | cons r rest ih =>
    rw [serve_cons, List.zip_cons_cons]
    by_cases h : Destined r
    · rw [List.filter_cons_of_pos (by simpa using h), List.map_cons, ih, run_dispatched_cons _ h,
        handle_of_destined p h]
    · rw [List.filter_cons_of_neg (by simpa using h), ih, dispatched_cons_of_not_destined h,
        handle_of_not_destined p h]

/-- All other requests are answered without the session. -/
theorem serve_turnedBack (p : Proxy) (reqs : List Http.Request) {r : Http.Request}
    {answer : Http.Response} (hmem : (r, answer) ∈ reqs.zip (p.serve reqs).1)
    (h : ¬ Destined r) : answer = turnedBack r := by
  induction reqs generalizing p with
  | nil => cases hmem
  | cons first rest ih =>
    rw [serve_cons, List.zip_cons_cons, List.mem_cons] at hmem
    rcases hmem with heq | hrest
    · obtain ⟨rfl, rfl⟩ := Prod.mk.inj heq
      rw [handle_of_not_destined p h]
    · exact ih _ hrest

/-- The listener simulates the run of its session on the requests with a destination.  The session
behind it is the one behind that run, the answers to these requests are those of that run, and
every request has an answer.  The other requests leave the proxy as it is: a client that asks for a
tunnel gets an empty answer, or is told that it named no destination, and any other client is told
that it talks to a proxy. -/
theorem serve_simulates (p : Proxy) (reqs : List Http.Request) :
    (p.serve reqs).2 = { p with session := (p.session.run (dispatched reqs)).2 } ∧
      ((reqs.zip (p.serve reqs).1).filter fun e => Destined e.1).map Prod.snd =
        (p.session.run (dispatched reqs)).1 ∧
      (p.serve reqs).1.length = reqs.length ∧
      (∀ e ∈ reqs.zip (p.serve reqs).1, ¬ Destined e.1 →
        e.2 = if e.1.method ≠ .connect then misuse
          else if e.1.uri.authority.isSome then ⟨200, .empty, []⟩ else nowhere) ∧
      (∀ (q : Proxy) (r : Http.Request), ¬ Destined r → (q.handle r).2 = q) ∧
      misuse.status = 501 ∧ nowhere.status = 400 := by
  refine ⟨serve_session p reqs, serve_answers p reqs, length_serve p reqs, ?_, ?_, rfl, rfl⟩
  · rintro ⟨r, answer⟩ hmem h
    rw [serve_turnedBack p reqs hmem h, turnedBack, ite_not]
    rfl
  · intro q r h
    rw [handle_of_not_destined q h]

end CloudStub.Proxy
