import CloudStub.Proofs.Session.History
import Mathlib.Algebra.BigOperators.Group.List.Basic
import Mathlib.Algebra.Order.Ring.Nat

/-!
# The books of a session

Rules count the requests they claim, limits bound the counts, the monitor lists the requests that
nobody claims and raises a flag.  These four agree in every state that a session can reach.

## Main Statements

- `History.sum_counts`: every request is counted by one rule or is without a winner
- `History.count_le_limit`: nobody wins more requests than its limit
- `Session.Tracks.isExhausted_run`: a rule whose limit is reached claims nothing any more
- `Session.run_balanced`: the books agree behind every run
-/

namespace CloudStub

/-! ### Counting winners -/

section Counting

variable {declared : List Declared} {rs : List Received} {ws : List (Option Nat)}

/-- How many requests one of the first `n` rules won. -/
def wonBelow (n : Nat) (ws : List (Option Nat)) : Nat := ws.countP fun w => w.any (· < n)

theorem wonBelow_succ (n : Nat) (ws : List (Option Nat)) :
    wonBelow (n + 1) ws = wonBelow n ws + ws.count (some n) := by
  induction ws with
  | nil => rfl
  | cons w rest ih =>
    unfold wonBelow at ih ⊢
    rw [List.countP_cons, List.countP_cons, List.count_cons, ih]
    cases w with
    | none => rfl
    | some k =>
      simp only [Option.any_some, decide_eq_true_eq, beq_iff_eq, Option.some.injEq]
      split <;> split <;> split <;> omega

theorem sum_range_count (n : Nat) (ws : List (Option Nat)) :
    ((List.range n).map fun k => ws.count (some k)).sum = wonBelow n ws := by
  induction n with
  | zero => simp [wonBelow]
  | succ n ih =>
    rw [List.range_succ, List.map_append, List.sum_append, ih, wonBelow_succ]
    simp

theorem wonBelow_add_count_none {n : Nat} (h : ∀ k, some k ∈ ws → k < n) :
    wonBelow n ws + ws.count none = ws.length := by
  induction ws with
  | nil => rfl
  | cons w rest ih =>
    have hrest := ih fun k hk => h k (List.mem_cons_of_mem _ hk)
    unfold wonBelow at hrest ⊢
    rw [List.countP_cons, List.count_cons, List.length_cons]
    cases w with
    | none =>
      rw [Option.any_none, if_neg Bool.false_ne_true, beq_self_eq_true, if_pos rfl]
      omega
    | some k =>
      have hk : k < n := h k (List.mem_cons_self ..)
      have hne : (some k == none) = false := rfl
      rw [Option.any_some, if_pos (decide_eq_true hk), hne, if_neg Bool.false_ne_true]
      omega

theorem counts_rulesBehind (declared : List Declared) (ws : List (Option Nat)) :
    (rulesBehind declared ws).map Rule.count =
      (List.range declared.length).map fun k => ws.count (some k) := by
  apply List.ext_getElem?
  intro k
  rw [List.getElem?_map, getElem?_rulesBehind, List.getElem?_map]
  by_cases hk : k < declared.length
  · simp [hk]
  · simp [hk]

theorem length_unclaimed (hlen : ws.length = rs.length) :
    (unclaimed rs ws).length = ws.count none := by
  induction ws generalizing rs with
  | nil => simp [unclaimed]
  | cons w rest ih =>
    cases rs with
    | nil => cases hlen
    | cons r rs =>
      have hrest := ih (Nat.succ.inj hlen)
      unfold unclaimed at hrest ⊢
      rw [List.zip_cons_cons, List.filter_cons, List.count_cons, ← hrest]
      cases w with
      | none => simp
      | some k => simp

namespace History

/-- Only declared rules win. -/
theorem lt_length (h : History declared rs ws) {k : Nat} (hk : some k ∈ ws) :
    k < declared.length := by
  obtain ⟨i, hi, hget⟩ := List.getElem_of_mem hk
  have hr : i < rs.length := by rw [← h.length_eq]; exact hi
  have hwins := h.wins i _ _ (List.getElem?_eq_getElem hr) (List.getElem?_eq_getElem hi)
  rw [hget] at hwins
  obtain ⟨d, hd, -⟩ := hwins.1
  exact (List.getElem?_eq_some_iff.1 hd).1

/-- Every request is counted by one rule or is without a winner. -/
theorem sum_counts (h : History declared rs ws) :
    ((rulesBehind declared ws).map Rule.count).sum + (unclaimed rs ws).length = rs.length := by
  rw [counts_rulesBehind, sum_range_count, length_unclaimed h.length_eq,
    wonBelow_add_count_none fun _ => h.lt_length, h.length_eq]

/-- Nobody wins more requests than its limit, by induction on the part of the history looked at:
whoever wins one more was below its limit before. -/
theorem count_le_limit (h : History declared rs ws) {k : Nat} {d : Declared}
    (hd : declared[k]? = some d) {limit : Nat} (hlimit : d.1.limit = some limit) :
    ws.count (some k) ≤ limit := by
  have htake : ∀ i, (ws.take i).count (some k) ≤ limit := by
    intro i
    induction i with
    | zero => simp
    | succ i ih =>
      rw [List.take_add_one, List.count_append]
      by_cases hw : ws[i]? = some (some k)
      · -- The rule wins at `i`, so it was below its limit before.
        have hi : i < rs.length := by
          rw [← h.length_eq]
          exact (List.getElem?_eq_some_iff.1 hw).1
        have hwins := h.wins i _ _ (List.getElem?_eq_getElem hi) hw
        obtain ⟨d', hd', -, hbelow⟩ := hwins.1
        obtain rfl : d = d' := Option.some.inj (hd.symm.trans hd')
        have hlt := hbelow limit hlimit
        rw [hw, Option.toList_some, List.count_singleton_self]
        omega
      · have hzero : ws[i]?.toList.count (some k) = 0 := by
          cases hwi : ws[i]? with
          | none => rfl
          | some w =>
            have hne : w ≠ some k := fun heq => hw (by rw [hwi, heq])
            simp [hne]
        omega
  have hall := htake ws.length
  rwa [List.take_length] at hall

end History

end Counting

/-! ### Sessions -/

namespace Session

variable {declared : List Declared} {failOnUnmatched : Bool} {s : Session} {rs : List Received}
  {ws : List (Option Nat)}

namespace Tracks

theorem count_le_limit (h : Tracks declared failOnUnmatched s rs ws) {rule : Rule}
    (hrule : rule ∈ s.rules) {limit : Nat} (hlimit : rule.matcher.limit = some limit) :
    rule.count ≤ limit := by
  rw [h.rules] at hrule
  obtain ⟨k, hk⟩ := List.getElem?_of_mem hrule
  rw [getElem?_rulesBehind, Option.map_eq_some_iff] at hk
  obtain ⟨d, hd, rfl⟩ := hk
  exact h.history.count_le_limit hd hlimit

/-- A rule whose limit is reached stays so. -/
theorem isExhausted_run (h : Tracks declared failOnUnmatched s rs ws) {k : Nat} {rule : Rule}
    (hk : s.rules[k]? = some rule) (hexhausted : rule.isExhausted = true) (more : List Event) :
    ∃ later, (s.run more).2.rules[k]? = some later ∧ later.isExhausted = true := by
  obtain ⟨vs, -, hlater⟩ := h.run more
  rw [h.rules, getElem?_rulesBehind, Option.map_eq_some_iff] at hk
  obtain ⟨d, hd, rfl⟩ := hk
  refine ⟨⟨d.1, d.2, (ws ++ vs).count (some k)⟩, ?_, ?_⟩
  · rw [hlater.rules, getElem?_rulesBehind, hd]
    rfl
  · refine Rule.isExhausted_of_le (a := ⟨d.1, d.2, ws.count (some k)⟩) rfl ?_ hexhausted
    show ws.count (some k) ≤ (ws ++ vs).count (some k)
    rw [List.count_append]
    exact Nat.le_add_right _ _

theorem failed_iff (h : Tracks declared failOnUnmatched s rs ws) :
    s.monitor.failed = true ↔ failOnUnmatched = true ∧ s.monitor.unmatched ≠ [] := by
  rw [h.failed]
  simp

end Tracks

/-- Behind every run the books agree: the counts and the unmatched requests add up to the requests
handled, no count exceeds its limit and no rule recovers from reaching it, the monitor lists the
requests without a winner in the order of their arrival, and the session failed exactly when the
policy says so and there is such a request. -/
theorem run_balanced (declared : List Declared) (failOnUnmatched : Bool) (dumper : Dumper)
    (setting : DebugSetting) (first : Nat) (events : List Event) :
    let s : Session :=
      ((fresh declared failOnUnmatched dumper setting first).run events).2
    (s.rules.map Rule.count).sum + s.monitor.unmatched.length = (requests events).length ∧
      (∀ rule ∈ s.rules, ∀ limit, rule.matcher.limit = some limit → rule.count ≤ limit) ∧
      (∀ (k : Nat) (rule : Rule), s.rules[k]? = some rule → rule.isExhausted = true → ∀ more,
        ∃ later : Rule, (s.run more).2.rules[k]? = some later ∧ later.isExhausted = true) ∧
      (∃ ws, History declared (classified first (requests events)) ws ∧
        s.monitor.unmatched =
          (unclaimed (classified first (requests events)) ws).map Received.summary) ∧
      (s.monitor.failed = true ↔ failOnUnmatched = true ∧ s.monitor.unmatched ≠ []) := by
  intro s
  obtain ⟨ws, -, h⟩ := (tracks_fresh declared failOnUnmatched dumper setting first).run events
  refine ⟨?_, ?_, ?_, ⟨ws, h.history, h.unmatched⟩, h.failed_iff⟩
  · have hsum := h.history.sum_counts
    rw [← h.rules, List.nil_append, length_classified] at hsum
    rw [h.unmatched, List.length_map]
    exact hsum
  · intro rule hrule limit hlimit
    exact h.count_le_limit hrule hlimit
  · intro k rule hk hexhausted more
    exact h.isExhausted_run hk hexhausted more

end Session

end CloudStub
