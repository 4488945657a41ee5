import CloudStub.Proofs.Reply.Fault
import CloudStub.Proofs.Rule.Claim
import CloudStub.Session.Basic

/-!
# Which rule answers which request

The rules of a session count what they claim, and the counts decide who answers next.  This module
describes a session without counts: the answers given so far determine who is still within its
limit, and so who answers the next request.

## Main Definitions

- `Declared`: what a rule declares
- `Eligible`, `Wins`: who may answer a request after some answers, and who does
- `History`: the winners of a sequence of requests
- `answerOf`: the answer of a winner
- `Session.fresh`: a session of declared rules before its first request
- `Session.Tracks`: what the state of a session says about the history behind it

## Main Statements

- `History.unique`: a sequence of requests has at most one history
- `unmatchedAnswer_reports`: what a request without a winner is answered
- `Session.Tracks.handle`: handling a request extends the history by one winner
- `Session.run_eq_history`: the answers of a run are those of its history

## Design Notes

A history names rules by position; a request without a winner has none.  `Tracks` holds for any
order of requests and changes of the debug setting, so a statement about all runs follows from the
fields of `Tracks` alone.
-/

namespace CloudStub

/-- What a rule declares: which requests it answers, and how. -/
abbrev Declared := Matcher × Response

/-! ### Histories -/

section History

variable {declared : List Declared} {rs : List Received} {ws vs : List (Option Nat)}

/-- Rule `k` accepts a request, and fewer of the earlier requests than its limit were answered by
it. -/
def Eligible (declared : List Declared) (earlier : List (Option Nat)) (r : Received) (k : Nat) :
    Prop :=
  ∃ d, declared[k]? = some d ∧ d.1.accepts r = true ∧
    ∀ limit, d.1.limit = some limit → earlier.count (some k) < limit

/-- The winner is the first eligible rule; there is none when no rule is eligible. -/
def Wins (declared : List Declared) (earlier : List (Option Nat)) (r : Received) :
    Option Nat → Prop
  | some k => Eligible declared earlier r k ∧ ∀ j < k, ¬ Eligible declared earlier r j
  | none => ∀ k, ¬ Eligible declared earlier r k

/-- The winners of a sequence of requests. -/
structure History (declared : List Declared) (rs : List Received) (ws : List (Option Nat)) :
    Prop where
  /-- Every request has a winner or is known to have none. -/
  length_eq : ws.length = rs.length
  /-- Each winner wins after the earlier ones. -/
  wins : ∀ (i : Nat) (r : Received) (w : Option Nat), rs[i]? = some r → ws[i]? = some w →
    Wins declared (ws.take i) r w

/-- A request has at most one winner. -/
theorem Wins.unique {earlier : List (Option Nat)} {r : Received} {v w : Option Nat}
    (hv : Wins declared earlier r v) (hw : Wins declared earlier r w) : v = w := by
  cases v with
  | none =>
    cases w with
    | none => rfl
    | some k => exact absurd hw.1 (hv k)
  | some j =>
    cases w with
    | none => exact absurd hv.1 (hw j)
    | some k =>
      rcases Nat.lt_trichotomy j k with hlt | rfl | hgt
      · exact absurd hv.1 (hw.2 j hlt)
      · rfl
      · exact absurd hw.1 (hv.2 k hgt)

namespace History

theorem nil (declared : List Declared) : History declared [] [] :=
  ⟨rfl, fun i r w hr _ => by simp at hr⟩

/-- A history grows by the winner of the next request. -/
theorem concat (h : History declared rs ws) {r : Received} {w : Option Nat}
    (hw : Wins declared ws r w) : History declared (rs ++ [r]) (ws ++ [w]) where
  length_eq := by simp [h.length_eq]
  wins i q v hq hv := by
    have hlen := h.length_eq
    rcases Nat.lt_trichotomy i ws.length with hlt | heq | hgt
    · rw [List.getElem?_append_left (by omega)] at hq
      rw [List.getElem?_append_left hlt] at hv
      rw [List.take_append_of_le_length (by omega)]
      exact h.wins i q v hq hv
    · -- At the last position all earlier winners are those of the old history.
      obtain rfl : r = q := by simpa [heq, hlen] using hq
      obtain rfl : w = v := by simpa [heq] using hv
      rw [heq, List.take_left]
      exact hw
    · rw [List.getElem?_eq_none (by rw [List.length_append, List.length_singleton]; omega)] at hv
      cases hv

/-- A sequence of requests has at most one history: its winners agree up to any position, by
induction on the position. -/
theorem unique (hv : History declared rs vs) (hw : History declared rs ws) : vs = ws := by
  have hlen : vs.length = ws.length := hv.length_eq.trans hw.length_eq.symm
  have htake : ∀ i, vs.take i = ws.take i := by
    intro i
    induction i with
    | zero => rfl
    | succ i ih =>
      rw [List.take_add_one, List.take_add_one, ih]
      congr 1
      by_cases hi : i < rs.length
      · have hiv : i < vs.length := by rw [hv.length_eq]; exact hi
        have hiw : i < ws.length := by rw [hw.length_eq]; exact hi
        have hwinv := hv.wins i _ _ (List.getElem?_eq_getElem hi) (List.getElem?_eq_getElem hiv)
        have hwinw := hw.wins i _ _ (List.getElem?_eq_getElem hi) (List.getElem?_eq_getElem hiw)
        rw [ih] at hwinv
        rw [List.getElem?_eq_getElem hiv, List.getElem?_eq_getElem hiw, hwinv.unique hwinw]
      · rw [List.getElem?_eq_none (by rw [hv.length_eq]; omega),
          List.getElem?_eq_none (by rw [hw.length_eq]; omega)]
  have hall := htake vs.length
  rw [List.take_length] at hall
  rw [hall, hlen, List.take_length]

end History

/-- The requests without a winner. -/
def unclaimed (rs : List Received) (ws : List (Option Nat)) : List Received :=
  ((rs.zip ws).filter fun p => p.2.isNone).map (·.1)

theorem unclaimed_cons (r : Received) (rs : List Received) (w : Option Nat)
    (ws : List (Option Nat)) :
    unclaimed (r :: rs) (w :: ws) = (if w.isNone then [r] else []) ++ unclaimed rs ws := by
  rw [unclaimed, List.zip_cons_cons, List.filter_cons, unclaimed]
  cases w <;> rfl

theorem unclaimed_concat (hlen : ws.length = rs.length) (r : Received) (w : Option Nat) :
    unclaimed (rs ++ [r]) (ws ++ [w]) =
      unclaimed rs ws ++ if w.isNone then [r] else [] := by
  rw [unclaimed, List.zip_append hlen.symm, List.filter_append, List.map_append, unclaimed]
  cases w <;> rfl

end History

/-! ### Answers and counts -/

/-- The answer to a request that no rule claims: an error in the format that it expects. -/
def unmatchedAnswer (r : Received) : Http.Response := (Fault.unmatched.draft r.format).complete

/-- Access is denied to a request that no rule claims. -/
theorem unmatchedAnswer_reports (r : Received) :
    (unmatchedAnswer r).Reports 501 "AccessDenied" "No matching request mock was found for this"
      r.format :=
  Fault.reports_complete rfl rfl r.format

/-- The answer of a winner. -/
def answerOf (declared : List Declared) (r : Received) (w : Option Nat) : Http.Response :=
  match w.bind fun k => declared[k]? with
  | some d => (Rule.new d.1 d.2).respond r
  | none => unmatchedAnswer r

/-- The rules behind some answers: each has counted those that it gave. -/
def rulesBehind (declared : List Declared) (ws : List (Option Nat)) : List Rule :=
  declared.mapIdx fun k d => ⟨d.1, d.2, ws.count (some k)⟩

theorem getElem?_rulesBehind (declared : List Declared) (ws : List (Option Nat)) (k : Nat) :
    (rulesBehind declared ws)[k]? =
      declared[k]?.map fun d => ⟨d.1, d.2, ws.count (some k)⟩ :=
  List.getElem?_mapIdx

/-- A rule behind some answers claims a request exactly when it is eligible. -/
theorem claims_iff_eligible {declared : List Declared} {ws : List (Option Nat)} {k : Nat}
    {rule : Rule} (h : (rulesBehind declared ws)[k]? = some rule) (r : Received) :
    rule.claims r = true ↔ Eligible declared ws r k := by
  rw [getElem?_rulesBehind, Option.map_eq_some_iff] at h
  obtain ⟨d, hd, rfl⟩ := h
  have hexhausted : (!Rule.isExhausted ⟨d.1, d.2, ws.count (some k)⟩) = true ↔
      ∀ limit, d.1.limit = some limit → ws.count (some k) < limit := by
    unfold Rule.isExhausted
    cases d.1.limit with
    | none => simp
    | some limit => simp
  rw [Rule.claims, Bool.and_eq_true, hexhausted]
  constructor
  · rintro ⟨hlimit, haccepts⟩
    exact ⟨d, hd, haccepts, hlimit⟩
  · rintro ⟨d', hd', haccepts, hlimit⟩
    obtain rfl : d = d' := Option.some.inj (hd.symm.trans hd')
    exact ⟨hlimit, haccepts⟩

theorem not_eligible_of_none {declared : List Declared} {ws : List (Option Nat)} {k : Nat}
    (h : (rulesBehind declared ws)[k]? = none) (r : Received) : ¬ Eligible declared ws r k := by
  rw [getElem?_rulesBehind, Option.map_eq_none_iff] at h
  rintro ⟨d, hd, -⟩
  rw [h] at hd
  cases hd

/-- Nobody counts a request without a winner. -/
theorem rulesBehind_concat_none (declared : List Declared) (ws : List (Option Nat)) :
    rulesBehind declared (ws ++ [none]) = rulesBehind declared ws := by
  simp [rulesBehind]

/-- A request is counted by its winner alone. -/
theorem rulesBehind_concat_some {declared : List Declared} {ws : List (Option Nat)} {k : Nat}
    {rule : Rule} (h : (rulesBehind declared ws)[k]? = some rule) :
    rulesBehind declared (ws ++ [some k]) = (rulesBehind declared ws).set k rule.counted := by
  apply List.ext_getElem?
  intro j
  have hk : k < (rulesBehind declared ws).length := (List.getElem?_eq_some_iff.1 h).1
  rw [getElem?_rulesBehind] at h ⊢
  rw [List.getElem?_set, getElem?_rulesBehind]
  by_cases hjk : k = j
  · subst hjk
    obtain ⟨d, hd, rfl⟩ := Option.map_eq_some_iff.1 h
    simp [hk, hd, Rule.counted]
  · have hcount : (ws ++ [some k]).count (some j) = ws.count (some j) := by
      simp [hjk]
    rw [if_neg hjk, hcount]

/-! ### Sessions -/

namespace Session

/-- A session of declared rules before its first request.  Requests are numbered from `first`. -/
def fresh (declared : List Declared) (failOnUnmatched : Bool) (dumper : Dumper)
    (setting : DebugSetting) (first : Nat) : Session :=
  { new (declared.map fun d => Rule.new d.1 d.2) failOnUnmatched dumper setting with
    nextSeq := first }

/-- The requests among some events. -/
def requests (events : List Event) : List Http.Request :=
  events.filterMap fun e =>
    match e with
    | .request req => some req
    | _ => none

/-- Requests as they are classified, numbered one after the other. -/
def classified (first : Nat) : List Http.Request → List Received
  | [] => []
  | req :: rest => Received.ofRequest first req :: classified (first + 1) rest

theorem length_classified (first : Nat) (reqs : List Http.Request) :
    (classified first reqs).length = reqs.length := by
  induction reqs generalizing first with
  | nil => rfl
  | cons req rest ih => rw [classified, List.length_cons, List.length_cons, ih]

/-- What the state of a session says about the history behind it. -/
structure Tracks (declared : List Declared) (failOnUnmatched : Bool) (s : Session)
    (rs : List Received) (ws : List (Option Nat)) : Prop where
  /-- The history is that of the requests. -/
  history : History declared rs ws
  /-- Each rule has counted the requests that it won. -/
  rules : s.rules = rulesBehind declared ws
  /-- The policy is the one of the start. -/
  policy : s.monitor.failOnUnmatched = failOnUnmatched
  /-- The monitor remembers the requests without a winner. -/
  unmatched : s.monitor.unmatched = (unclaimed rs ws).map Received.summary
  /-- The session failed when it should for such a request and there is one. -/
  failed : s.monitor.failed = (failOnUnmatched && !s.monitor.unmatched.isEmpty)

variable {declared : List Declared} {failOnUnmatched : Bool} {s : Session} {rs : List Received}
  {ws : List (Option Nat)}

theorem tracks_fresh (declared : List Declared) (failOnUnmatched : Bool) (dumper : Dumper)
    (setting : DebugSetting) (first : Nat) :
    Tracks declared failOnUnmatched (fresh declared failOnUnmatched dumper setting first) [] []
    where
  history := History.nil declared
  rules := by
    apply List.ext_getElem?
    intro k
    simp [fresh, new, Rule.new, rulesBehind]
  policy := rfl
  unmatched := rfl
  failed := by simp [fresh, new, Monitor.new]

/-! ### One request -/

section Handle

variable (s : Session) (req : Http.Request)

theorem response_handle : (s.handle req).1 = (s.answer (Received.ofRequest s.nextSeq req)).1 := rfl

theorem rules_handle :
    (s.handle req).2.rules = (s.answer (Received.ofRequest s.nextSeq req)).2.1 := rfl

theorem monitor_handle :
    (s.handle req).2.monitor = (s.answer (Received.ofRequest s.nextSeq req)).2.2 := rfl

theorem nextSeq_handle : (s.handle req).2.nextSeq = s.nextSeq + 1 := rfl

end Handle

/-- Answering a request that no rule claims. -/
theorem answer_of_none {r : Received} (h : Rule.claimFirst r s.rules = none) :
    s.answer r = (unmatchedAnswer r, s.rules, s.monitor.record r) := by
  rw [answer, h, unmatchedAnswer]

/-- Answering a request that a rule claims. -/
theorem answer_of_some {r : Received} {rule : Rule} {rules : List Rule}
    (h : Rule.claimFirst r s.rules = some (rule, rules)) :
    s.answer r = (rule.respond r, rules, s.monitor) := by
  rw [answer, h]

/-- Rules behind a history answer a request as its winner does, and are then the rules behind the
longer history.  The monitor remembers the request when there is no winner. -/
theorem answer_eq_winner (hrules : s.rules = rulesBehind declared ws) (r : Received) :
    ∃ w, Wins declared ws r w ∧
      s.answer r = (answerOf declared r w, rulesBehind declared (ws ++ [w]),
        if w.isNone then s.monitor.record r else s.monitor) := by
  rcases Rule.claimFirst_cases r s.rules with
    ⟨hnone, hclaim⟩ | ⟨k, rule, hk, hclaims, hbefore, hclaim⟩
  · refine ⟨none, ?_, ?_⟩
    · -- Nobody claims the request, so nobody is eligible.
      intro k helig
      cases hk : (rulesBehind declared ws)[k]? with
      | none => exact not_eligible_of_none hk r helig
      | some rule =>
        have hmem : rule ∈ s.rules := hrules ▸ List.mem_of_getElem? hk
        have hclaims := (claims_iff_eligible hk r).2 helig
        rw [hnone rule hmem] at hclaims
        cases hclaims
    · rw [answer_of_none hclaim, rulesBehind_concat_none, hrules]
      rfl
  · -- The rule at `k` claims it, and whoever is eligible earlier would have claimed it.
    rw [hrules] at hk hbefore hclaim
    refine ⟨some k, ⟨(claims_iff_eligible hk r).1 hclaims, ?_⟩, ?_⟩
    · intro j hj helig
      cases hother : (rulesBehind declared ws)[j]? with
      | none => exact not_eligible_of_none hother r helig
      | some other =>
        have hclaims := (claims_iff_eligible hother r).2 helig
        rw [hbefore j hj other hother] at hclaims
        cases hclaims
    · rw [answer_of_some (hrules ▸ hclaim), rulesBehind_concat_some hk]
      rw [getElem?_rulesBehind, Option.map_eq_some_iff] at hk
      obtain ⟨d, hd, rfl⟩ := hk
      have hanswer : answerOf declared r (some k) = (Rule.new d.1 d.2).respond r := by
        rw [answerOf, Option.bind_some, hd]
      rw [hanswer, hrules]
      rfl

/-- Handling a request extends the history by the winner, who answers it. -/
theorem Tracks.handle (h : Tracks declared failOnUnmatched s rs ws) (req : Http.Request) :
    ∃ w, (s.handle req).1 = answerOf declared (Received.ofRequest s.nextSeq req) w ∧
      Tracks declared failOnUnmatched (s.handle req).2
        (rs ++ [Received.ofRequest s.nextSeq req]) (ws ++ [w]) := by
  obtain ⟨w, hwins, hanswer⟩ := answer_eq_winner h.rules (Received.ofRequest s.nextSeq req)
  have hunclaimed :=
    unclaimed_concat h.history.length_eq (Received.ofRequest s.nextSeq req) w
  refine ⟨w, by rw [response_handle, hanswer], h.history.concat hwins, ?_, ?_, ?_, ?_⟩
  · rw [rules_handle, hanswer]
  · rw [monitor_handle, hanswer]
    cases w with
    | none => exact h.policy
    | some k => exact h.policy
  · rw [monitor_handle, hanswer, hunclaimed]
    cases w with
    | none => simp [Monitor.record, h.unmatched]
    | some k => simp [h.unmatched]
  · rw [monitor_handle, hanswer]
    cases w with
    | none => cases failOnUnmatched <;> simp [Monitor.record, h.failed, h.policy]
    | some k => exact h.failed

/-! ### Runs -/

theorem run_cons (s : Session) (e : Event) (rest : List Event) :
    s.run (e :: rest) =
      ((s.step e).1.toList ++ ((s.step e).2.run rest).1, ((s.step e).2.run rest).2) := rfl

/-- A change of the debug setting is no request, and keeps rules, monitor and numbers. -/
theorem step_of_not_request {e : Event} (h : ∀ req, e ≠ .request req) (s : Session) :
    (s.step e).1 = none ∧ (s.step e).2.rules = s.rules ∧ (s.step e).2.monitor = s.monitor ∧
      (s.step e).2.nextSeq = s.nextSeq := by
  cases e with
  | request req => exact absurd rfl (h req)
  | setDebug on => exact ⟨rfl, rfl, rfl, rfl⟩
  | resetDebug => exact ⟨rfl, rfl, rfl, rfl⟩
  | setVariable value => exact ⟨rfl, rfl, rfl, rfl⟩

theorem requests_cons_of_not_request {e : Event} (h : ∀ req, e ≠ .request req)
    (rest : List Event) : requests (e :: rest) = requests rest := by
  cases e with
  | request req => exact absurd rfl (h req)
  | setDebug on => rfl
  | resetDebug => rfl
  | setVariable value => rfl

/-- What a session says about the history behind it does not depend on the debug setting. -/
theorem Tracks.congr (h : Tracks declared failOnUnmatched s rs ws) {t : Session}
    (hrules : t.rules = s.rules) (hmonitor : t.monitor = s.monitor) :
    Tracks declared failOnUnmatched t rs ws where
  history := h.history
  rules := hrules.trans h.rules
  policy := by rw [hmonitor, h.policy]
  unmatched := by rw [hmonitor, h.unmatched]
  failed := by rw [hmonitor, h.failed]

/-- A run extends the history by the winners of its requests, who answer them. -/
theorem Tracks.run (h : Tracks declared failOnUnmatched s rs ws) (events : List Event) :
    ∃ vs, (s.run events).1 =
        List.zipWith (answerOf declared) (classified s.nextSeq (requests events)) vs ∧
      Tracks declared failOnUnmatched (s.run events).2
        (rs ++ classified s.nextSeq (requests events)) (ws ++ vs) := by
  induction events generalizing s rs ws with
  | nil => exact ⟨[], rfl, by simpa [requests, classified, Session.run] using h⟩
  | cons e rest ih =>
    by_cases he : ∃ req, e = .request req
    · obtain ⟨req, rfl⟩ := he
      obtain ⟨w, hanswer, hhandle⟩ := h.handle req
      obtain ⟨vs, hanswers, hrest⟩ := ih hhandle
      rw [nextSeq_handle] at hanswers hrest
      refine ⟨w :: vs, ?_, ?_⟩
      · rw [run_cons]
        show (s.handle req).1 :: ((s.handle req).2.run rest).1 = _
        rw [hanswer, hanswers]
        rfl
      · rw [List.append_assoc, List.append_assoc] at hrest
        exact hrest
    · -- Anything else leaves the history as it is.
      have hother : ∀ req, e ≠ .request req := fun req heq => he ⟨req, heq⟩
      obtain ⟨hresponse, hrules, hmonitor, hnext⟩ := step_of_not_request hother s
      obtain ⟨vs, hanswers, hrest⟩ := ih (h.congr hrules hmonitor)
      rw [hnext] at hanswers hrest
      rw [run_cons, hresponse, requests_cons_of_not_request hother]
      exact ⟨vs, hanswers, hrest⟩

/-- A run before which there was no request extends the empty history. -/
theorem tracks_run (declared : List Declared) (failOnUnmatched : Bool) (dumper : Dumper)
    (setting : DebugSetting) (first : Nat) (events : List Event) :
    ∃ ws, ((fresh declared failOnUnmatched dumper setting first).run events).1 =
        List.zipWith (answerOf declared) (classified first (requests events)) ws ∧
      Tracks declared failOnUnmatched
        ((fresh declared failOnUnmatched dumper setting first).run events).2
        (classified first (requests events)) ws :=
  (tracks_fresh declared failOnUnmatched dumper setting first).run events

/-- The answers of a run are those of its history: every request is answered by the first rule
that accepts it and was the winner of fewer earlier requests than its limit.  When there is no such
rule, access is denied in the format that the request expects. -/
theorem run_eq_history (declared : List Declared) (failOnUnmatched : Bool) (dumper : Dumper)
    (setting : DebugSetting) (first : Nat) (events : List Event) :
    let rs := classified first (requests events)
    let answers := ((fresh declared failOnUnmatched dumper setting first).run events).1
    ∃ ws, History declared rs ws ∧ (∀ vs, History declared rs vs → vs = ws) ∧
      answers = List.zipWith (answerOf declared) rs ws ∧
      ∀ (i : Nat) (r : Received), rs[i]? = some r → ws[i]? = some none →
        ∃ m, answers[i]? = some m ∧
          m.Reports 501 "AccessDenied" "No matching request mock was found for this" r.format := by
  intro rs answers
  obtain ⟨ws, hanswers, htracks⟩ :
      ∃ ws, answers = List.zipWith (answerOf declared) rs ws ∧ Tracks declared _ _ rs ws :=
    tracks_run declared failOnUnmatched dumper setting first events
  have hhistory : History declared rs ws := htracks.history
  refine ⟨ws, hhistory, fun vs hvs => hvs.unique hhistory, hanswers, fun i r hr hw => ?_⟩
  have hanswer : answers[i]? = some (unmatchedAnswer r) := by
    rw [hanswers, List.getElem?_zipWith_eq_some]
    exact ⟨r, none, hr, hw, rfl⟩
  exact ⟨_, hanswer, unmatchedAnswer_reports r⟩

end Session

end CloudStub
