import CloudStub.Proofs.Session.Numbering

/-!
# Observing a session

A session can be observed: its traffic is dumped or not, to a sink that works or not, the shared
debug setting changes between requests, and unmatched requests may count as a failure.  None of
this reaches the answers, the counts of the rules or the list of unmatched requests.

## Main Statements

- `Session.Tracks.agree`: two sessions behind the same requests have the same winners, rules and
  unmatched requests
- `Session.run_observed`: two runs over the same requests, observed in different ways

## Design Notes

`Tracks` says nothing about dumps and debug settings, and a history is unique.  So two sessions
that track histories of the same requests agree on all that a history determines, and there is no
need to follow the two runs step by step.
-/

namespace CloudStub.Session

variable {declared : List Declared} {failOnUnmatched failOnUnmatched' : Bool} {s t : Session}
  {first first' : Nat} {reqs : List Http.Request} {ws vs : List (Option Nat)}

/-- Two sessions behind the same requests have the same winners, rules and unmatched requests. -/
theorem Tracks.agree (hnumber : first = first' ∨ ∀ d ∈ declared, d.NumberBlind)
    (hs : Tracks declared failOnUnmatched s (classified first reqs) ws)
    (ht : Tracks declared failOnUnmatched' t (classified first' reqs) vs) :
    ws = vs ∧ s.rules = t.rules ∧ s.monitor.unmatched = t.monitor.unmatched := by
  have hws : ws = vs := (hs.history.renumber hnumber).unique ht.history
  refine ⟨hws, ?_, ?_⟩
  · rw [hs.rules, ht.rules, hws]
  · rw [hs.unmatched, ht.unmatched, hws, summary_unclaimed_renumber first first']

/-- The requests of an initial part of some events come first among the requests. -/
theorem requests_isPrefix {before events : List Event} (h : before <+: events) :
    requests before <+: requests events := h.filterMap _

/-- Initial parts with the same number of requests have the same requests. -/
theorem requests_eq_of_isPrefix {before before' events events' : List Event}
    (hrequests : requests events = requests events') (h : before <+: events)
    (h' : before' <+: events')
    (hlength : (requests before).length = (requests before').length) :
    requests before = requests before' := by
  have hprefix := requests_isPrefix h
  have hprefix' := requests_isPrefix h'
  rw [hrequests] at hprefix
  exact (List.prefix_of_prefix_length_le hprefix hprefix' (Nat.le_of_eq hlength)).eq_of_length
    hlength

/-- Observation does not change what a session does.  Two sessions of the same rules get the same
requests; their policies, dumpers and debug settings differ, and so do the changes of the setting
between the requests.  All answers are the same, and after any number of requests, wherever each
of the two stands between this request and the next, the rules are the same with their counts, and
the same requests were unmatched. -/
theorem run_observed (declared : List Declared) (failOnUnmatched failOnUnmatched' : Bool)
    (dumper dumper' : Dumper) (setting setting' : DebugSetting) (first first' : Nat)
    (hnumber : first = first' ∨ ∀ d ∈ declared, d.NumberBlind) (events events' : List Event)
    (hrequests : requests events = requests events') :
    let s := fresh declared failOnUnmatched dumper setting first
    let t := fresh declared failOnUnmatched' dumper' setting' first'
    (s.run events).1 = (t.run events').1 ∧
      ∀ before before', before <+: events → before' <+: events' →
        (requests before).length = (requests before').length →
          (s.run before).2.rules = (t.run before').2.rules ∧
            (s.run before).2.monitor.unmatched = (t.run before').2.monitor.unmatched := by
  intro s t
  refine ⟨?_, ?_⟩
  · obtain ⟨ws, hanswers, hs⟩ :=
      tracks_run declared failOnUnmatched dumper setting first events
    obtain ⟨vs, hanswers', ht⟩ :=
      tracks_run declared failOnUnmatched' dumper' setting' first' events'
    rw [hrequests] at hanswers hs
    calc (s.run events).1
        = List.zipWith (answerOf declared) (classified first (requests events')) ws := hanswers
      _ = List.zipWith (answerOf declared) (classified first' (requests events')) ws :=
          zipWith_answerOf_renumber hnumber _ _
      _ = List.zipWith (answerOf declared) (classified first' (requests events')) vs := by
          rw [(Tracks.agree hnumber hs ht).1]
      _ = (t.run events').1 := hanswers'.symm
  · intro before before' hbefore hbefore' hlength
    obtain ⟨ws, -, hs⟩ := tracks_run declared failOnUnmatched dumper setting first before
    obtain ⟨vs, -, ht⟩ := tracks_run declared failOnUnmatched' dumper' setting' first' before'
    rw [requests_eq_of_isPrefix hrequests hbefore hbefore' hlength] at hs
    exact (Tracks.agree hnumber hs ht).2

/-- A session that fails and dumps to a broken sink, and one that does neither. -/
theorem run_observed_brokenSink :
    let declared : List Declared := [({ Matcher.any with limit := some 1 }, .ofBody (.text "once"))]
    let events : List Event :=
      [.setDebug true, .request default, .resetDebug, .request default]
    let events' : List Event := [.request default, .request default, .setVariable none]
    let s := fresh declared true (.new .environment true) (.initial none) 1
    let t := fresh declared false (.new .disabled false) (.initial (some [49])) 3
    ((1 = 3 ∨ ∀ d ∈ declared, d.NumberBlind) ∧ requests events = requests events') ∧
      ((s.run events).2.monitor.failed = true ∧ (t.run events').2.monitor.failed = false) ∧
      (s.run events).1 = (t.run events').1 ∧
      ∀ before before', before <+: events → before' <+: events' →
        (requests before).length = (requests before').length →
          (s.run before).2.rules = (t.run before').2.rules ∧
            (s.run before).2.monitor.unmatched = (t.run before').2.monitor.unmatched := by
  intro declared events events' s t
  have hblind : 1 = 3 ∨ ∀ d ∈ declared, d.NumberBlind :=
    Or.inr (List.forall_mem_singleton.2 (Declared.numberBlind_text rfl _))
  exact ⟨⟨hblind, rfl⟩, by decide +kernel,
    run_observed declared true false _ _ _ _ 1 3 hblind events events' rfl⟩

end CloudStub.Session
