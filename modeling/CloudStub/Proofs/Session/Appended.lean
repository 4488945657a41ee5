import CloudStub.Proofs.Session.Numbering

/-!
# Rules behind other rules

Rules that are added behind others are asked only about requests that the others leave.  The
earlier rules never notice them: they answer the same requests with the same answers, and count
the same, whatever the added rules accept and whatever their limits are.

## Main Definitions

- `winnerBelow`, `winnersBelow`: winners, with the rules from a position on left out

## Main Statements

- `History.of_append`: leaving the added rules out of a history gives the history without them
- `Session.Tracks.append_rules`: what two sessions say about histories of the same requests, one
  with added rules and one without
- `Session.run_append_rules`: runs with and without added rules

## Design Notes

The added rules use up limits of their own, so the two sessions do not agree on all counts.  The
comparison is between their histories: the counts of the earlier rules are read off the winners
among them, and a history is unique.
-/

namespace CloudStub

/-! ### Histories -/

/-- A winner, unless it stands at a position or behind it. -/
def winnerBelow (n : Nat) (w : Option Nat) : Option Nat := w.filter fun k => decide (k < n)

/-- Winners, with the rules from a position on left out. -/
def winnersBelow (n : Nat) (ws : List (Option Nat)) : List (Option Nat) := ws.map (winnerBelow n)

variable {declared extra : List Declared} {rs : List Received} {ws : List (Option Nat)}

theorem winnerBelow_of_lt {n k : Nat} (hk : k < n) : winnerBelow n (some k) = some k := by
  rw [winnerBelow, Option.filter_some, if_pos (decide_eq_true hk)]

theorem winnerBelow_of_le {n k : Nat} (hk : n ≤ k) : winnerBelow n (some k) = none := by
  rw [winnerBelow, Option.filter_some, if_neg (by simpa using hk)]

theorem getElem?_winnersBelow (n : Nat) (ws : List (Option Nat)) (i : Nat) :
    (winnersBelow n ws)[i]? = ws[i]?.map (winnerBelow n) :=
  List.getElem?_map

/-- A winner that is left is an earlier rule, and was the winner before. -/
theorem getElem?_of_winnersBelow {n i k : Nat} (h : (winnersBelow n ws)[i]? = some (some k)) :
    ws[i]? = some (some k) ∧ k < n := by
  rw [getElem?_winnersBelow, Option.map_eq_some_iff] at h
  obtain ⟨w, hw, hbelow⟩ := h
  obtain ⟨rfl, hlt⟩ := Option.filter_eq_some_iff.1 hbelow
  exact ⟨hw, of_decide_eq_true hlt⟩

theorem take_winnersBelow (n : Nat) (ws : List (Option Nat)) (i : Nat) :
    (winnersBelow n ws).take i = winnersBelow n (ws.take i) :=
  List.map_take.symm

/-- Leaving later rules out does not touch the count of an earlier one. -/
theorem count_winnersBelow {n k : Nat} (hk : k < n) (ws : List (Option Nat)) :
    (winnersBelow n ws).count (some k) = ws.count (some k) := by
  induction ws with
  | nil => rfl
  | cons w rest ih =>
    unfold winnersBelow at ih ⊢
    rw [List.map_cons, List.count_cons, List.count_cons, ih]
    have hsame : (winnerBelow n w == some k) = (w == some k) := by
      cases w with
      | none => rfl
      | some j =>
        rcases Nat.lt_or_ge j n with hj | hj
        · rw [winnerBelow_of_lt hj]
        · have hne : j ≠ k := by omega
          rw [winnerBelow_of_le hj]
          simp [hne]
    rw [hsame]

/-- An earlier rule is eligible with added rules exactly when it is without them. -/
theorem eligible_append_iff {r : Received} {k : Nat} (hk : k < declared.length) :
    Eligible (declared ++ extra) ws r k ↔
      Eligible declared (winnersBelow declared.length ws) r k := by
  unfold Eligible
  rw [List.getElem?_append_left hk, count_winnersBelow hk]

theorem Eligible.lt_length {r : Received} {k : Nat} (h : Eligible declared ws r k) :
    k < declared.length := by
  obtain ⟨d, hd, -⟩ := h
  exact (List.getElem?_eq_some_iff.1 hd).1

/-- Without the added rules a request has the same winner, or none if an added rule won it. -/
theorem Wins.of_append {r : Received} {w : Option Nat} (h : Wins (declared ++ extra) ws r w) :
    Wins declared (winnersBelow declared.length ws) r (winnerBelow declared.length w) := by
  cases w with
  | none => exact fun k helig => h k ((eligible_append_iff helig.lt_length).2 helig)
  | some k =>
    obtain ⟨helig, hbefore⟩ := h
    rcases Nat.lt_or_ge k declared.length with hk | hk
    · rw [winnerBelow_of_lt hk]
      refine ⟨(eligible_append_iff hk).1 helig, ?_⟩
      intro j hj hother
      exact hbefore j hj ((eligible_append_iff hother.lt_length).2 hother)
    · -- An added rule won, so no earlier rule was eligible.
      rw [winnerBelow_of_le hk]
      intro j hother
      have hj := hother.lt_length
      exact hbefore j (by omega) ((eligible_append_iff hj).2 hother)

/-- Leaving the added rules out of a history gives the history without them. -/
theorem History.of_append (h : History (declared ++ extra) rs ws) :
    History declared rs (winnersBelow declared.length ws) where
  length_eq := by rw [winnersBelow, List.length_map, h.length_eq]
  wins i r w hr hw := by
    rw [getElem?_winnersBelow, Option.map_eq_some_iff] at hw
    obtain ⟨v, hv, rfl⟩ := hw
    rw [take_winnersBelow]
    exact (h.wins i r v hr hv).of_append

/-- The earlier rules count what they would count without the added ones. -/
theorem rulesBehind_append (declared extra : List Declared) (ws : List (Option Nat)) :
    (rulesBehind (declared ++ extra) ws).take declared.length =
      rulesBehind declared (winnersBelow declared.length ws) := by
  apply List.ext_getElem?
  intro k
  rw [List.getElem?_take, getElem?_rulesBehind, getElem?_rulesBehind]
  by_cases hk : k < declared.length
  · rw [if_pos hk, List.getElem?_append_left hk, count_winnersBelow hk]
  · rw [if_neg hk, List.getElem?_eq_none (by omega), Option.map_none]

/-- What no rule claims is not claimed without the added rules either. -/
theorem unclaimed_sublist_winnersBelow (n : Nat) (rs : List Received) (ws : List (Option Nat)) :
    (unclaimed rs ws).Sublist (unclaimed rs (winnersBelow n ws)) := by
  induction rs generalizing ws with
  | nil => exact List.Sublist.refl _
  | cons r rest ih =>
    cases ws with
    | nil => exact List.Sublist.refl _
    | cons w ws =>
      rw [winnersBelow, List.map_cons, unclaimed_cons, unclaimed_cons]
      refine List.Sublist.append ?_ (ih ws)
      cases w with
      | none => exact List.Sublist.refl _
      | some k => exact List.nil_sublist _

/-- An earlier rule gives the same answer with added rules. -/
theorem answerOf_append (r : Received) {k : Nat} (hk : k < declared.length) :
    answerOf (declared ++ extra) r (some k) = answerOf declared r (some k) := by
  unfold answerOf
  rw [Option.bind_some, Option.bind_some, List.getElem?_append_left hk]

/-! ### Sessions -/

namespace Session

variable {failOnUnmatched failOnUnmatched' : Bool} {s t : Session} {first first' : Nat}
  {reqs : List Http.Request} {vs : List (Option Nat)}

/-- Two sessions behind the same requests, the second with added rules: the winners of the first
are those of the second with the added rules left out, the first rules are the same with their
counts, and the second session has no other unmatched requests. -/
theorem Tracks.append_rules (hnumber : first = first' ∨ ∀ d ∈ declared, d.NumberBlind)
    (hs : Tracks declared failOnUnmatched s (classified first reqs) ws)
    (ht : Tracks (declared ++ extra) failOnUnmatched' t (classified first' reqs) vs) :
    ws = winnersBelow declared.length vs ∧ t.rules.take declared.length = s.rules ∧
      t.monitor.unmatched.Sublist s.monitor.unmatched := by
  have hws : ws = winnersBelow declared.length vs :=
    (hs.history.renumber hnumber).unique ht.history.of_append
  refine ⟨hws, ?_, ?_⟩
  · rw [ht.rules, hs.rules, hws, rulesBehind_append]
  · rw [ht.unmatched, hs.unmatched, hws, summary_unclaimed_renumber first first']
    exact (unclaimed_sublist_winnersBelow _ _ vs).map _

/-- Adding rules behind those of a session disturbs none of them.  After any number of events the
earlier rules are the same, with their counts, and what is unmatched with the added rules is also
unmatched without them, in the same order.  Every request that an earlier rule answered without
the added rules has the same answer with them. -/
theorem run_append_rules (declared extra : List Declared) (failOnUnmatched failOnUnmatched' : Bool)
    (dumper dumper' : Dumper) (setting setting' : DebugSetting) (first first' : Nat)
    (hnumber : first = first' ∨ ∀ d ∈ declared, d.NumberBlind) (events : List Event) :
    let s := fresh declared failOnUnmatched dumper setting first
    let t := fresh (declared ++ extra) failOnUnmatched' dumper' setting' first'
    (∀ n, (t.run (events.take n)).2.rules.take declared.length =
          (s.run (events.take n)).2.rules ∧
        (t.run (events.take n)).2.monitor.unmatched.Sublist
          (s.run (events.take n)).2.monitor.unmatched) ∧
      ∃ ws, History declared (classified first (requests events)) ws ∧
        ∀ (i k : Nat), ws[i]? = some (some k) →
          ∃ response, (s.run events).1[i]? = some response ∧
            (t.run events).1[i]? = some response := by
  intro s t
  refine ⟨?_, ?_⟩
  · intro n
    obtain ⟨ws, -, hs⟩ :=
      tracks_run declared failOnUnmatched dumper setting first (events.take n)
    obtain ⟨vs, -, ht⟩ :=
      tracks_run (declared ++ extra) failOnUnmatched' dumper' setting' first' (events.take n)
    exact (Tracks.append_rules hnumber hs ht).2
  · obtain ⟨ws, hanswers, hs⟩ :=
      tracks_run declared failOnUnmatched dumper setting first events
    obtain ⟨vs, hanswers', ht⟩ :=
      tracks_run (declared ++ extra) failOnUnmatched' dumper' setting' first' events
    have hws := (Tracks.append_rules hnumber hs ht).1
    rw [zipWith_answerOf_renumber hnumber] at hanswers
    refine ⟨ws, hs.history, ?_⟩
    intro i k hk
    -- The winner is an earlier rule, so it also wins when rules are added.
    obtain ⟨hv, hlt⟩ := getElem?_of_winnersBelow (hws ▸ hk)
    have hi : i < (classified first' (requests events)).length := by
      rw [← ht.history.length_eq]
      exact (List.getElem?_eq_some_iff.1 hv).1
    have hr := List.getElem?_eq_getElem hi
    refine ⟨answerOf declared (classified first' (requests events))[i] (some k), ?_, ?_⟩
    · rw [hanswers]
      exact List.getElem?_zipWith_eq_some.2 ⟨_, _, hr, hk, rfl⟩
    · rw [hanswers']
      exact List.getElem?_zipWith_eq_some.2 ⟨_, _, hr, hv, answerOf_append _ hlt⟩

/-- A rule for one request. -/
def onceRule : Declared := ({ Matcher.any with limit := some 1 }, .ofBody (.text "once"))

/-- A rule for every request. -/
def openRule : Declared := (.any, .ofBody (.text "open"))

/-- Behind a rule for one request an open rule takes the second request, which is unmatched
without it.  The two sessions count from different numbers. -/
theorem run_append_rules_open :
    (1 = 7 ∨ ∀ d ∈ [onceRule], d.NumberBlind) ∧
      let events : List Event := [.request default, .setDebug true, .request default]
      let s := fresh [onceRule] true (.new .environment false) (.initial none) 1
      let t := fresh ([onceRule] ++ [openRule]) true (.new .environment true) (.initial none) 7
      ((s.run events).2.monitor.unmatched.length = 1 ∧ (t.run events).2.monitor.unmatched = []) ∧
        (∀ n, (t.run (events.take n)).2.rules.take 1 = (s.run (events.take n)).2.rules ∧
          (t.run (events.take n)).2.monitor.unmatched.Sublist
            (s.run (events.take n)).2.monitor.unmatched) ∧
        ∃ ws, History [onceRule] (classified 1 (requests events)) ws ∧
          ∀ (i k : Nat), ws[i]? = some (some k) →
            ∃ response, (s.run events).1[i]? = some response ∧
              (t.run events).1[i]? = some response := by
  have hblind : 1 = 7 ∨ ∀ d ∈ [onceRule], d.NumberBlind :=
    Or.inr (List.forall_mem_singleton.2 (Declared.numberBlind_text rfl _))
  exact ⟨hblind, by decide +kernel,
    run_append_rules [onceRule] [openRule] true true _ _ _ _ 1 7 hblind _⟩

end Session

end CloudStub
