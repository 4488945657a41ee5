import CloudStub.Rule.Basic

/-!
# Claiming requests

Asking a list of rules about a request either leaves all rules as they are, or counts the request
in exactly one of them: the first that accepts it and has not reached its limit.

## Main Definitions

- `Rule.claims`: whether a rule claims a request
- `Rule.counted`: the rule behind a claim

## Main Statements

- `Rule.claimFirst_cases`: everything that asking a list of rules can do
- `Rule.isExhausted_of_le`: a limit that is reached stays reached as the count grows

## Design Notes

Rules are addressed by their position.  Two rules of a list may be equal, and then only one of them
counts a request.
-/

namespace CloudStub.Rule

/-- Whether a rule claims a request. -/
def claims (r : Rule) (req : Received) : Bool := !r.isExhausted && r.matcher.accepts req

/-- The rule behind a claim. -/
def counted (r : Rule) : Rule := { r with count := r.count + 1 }

theorem claim?_of_claims {r : Rule} {req : Received} (h : r.claims req = true) :
    r.claim? req = some r.counted := by
  unfold claims at h
  rw [claim?, if_pos h, counted]

theorem claim?_of_not_claims {r : Rule} {req : Received} (h : r.claims req = false) :
    r.claim? req = none := by
  unfold claims at h
  rw [claim?, if_neg (by simp [h])]

/-- Asking rules about a request: no rule claims it and none changes, or the first rule that claims
it counts it and no other rule changes. -/
theorem claimFirst_cases (req : Received) (rules : List Rule) :
    ((∀ rule ∈ rules, rule.claims req = false) ∧ claimFirst req rules = none) ∨
      ∃ k rule, rules[k]? = some rule ∧ rule.claims req = true ∧
        (∀ j < k, ∀ other, rules[j]? = some other → other.claims req = false) ∧
        claimFirst req rules = some (rule.counted, rules.set k rule.counted) := by
  induction rules with
  | nil => exact Or.inl ⟨by simp, rfl⟩
  | cons first rest ih =>
    cases hfirst : first.claims req with
    | true =>
      refine Or.inr ⟨0, first, rfl, hfirst, by simp, ?_⟩
      rw [claimFirst, claim?_of_claims hfirst]
      rfl
    | false =>
      -- The first rule refuses, so the rest decides, one position further on.
      rw [claimFirst, claim?_of_not_claims hfirst]
      rcases ih with ⟨hnone, hrest⟩ | ⟨k, rule, hk, hclaims, hearlier, hrest⟩
      · refine Or.inl ⟨?_, by rw [hrest]; rfl⟩
        intro rule hrule
        rcases List.mem_cons.1 hrule with rfl | hrule
        · exact hfirst
        · exact hnone rule hrule
      · refine Or.inr ⟨k + 1, rule, hk, hclaims, ?_, by rw [hrest]; rfl⟩
        intro j hj other hother
        cases j with
        | zero =>
          obtain rfl : first = other := by simpa using hother
          exact hfirst
        | succ j => exact hearlier j (by omega) other hother

/-- A limit that is reached stays reached as the count grows. -/
theorem isExhausted_of_le {a b : Rule} (hmatcher : a.matcher = b.matcher)
    (hcount : a.count ≤ b.count) (h : a.isExhausted = true) : b.isExhausted = true := by
  unfold isExhausted at h ⊢
  rw [← hmatcher]
  cases hlimit : a.matcher.limit with
  | none => simp [hlimit] at h
  | some limit =>
    simp only [hlimit, Option.any_some, decide_eq_true_eq] at h ⊢
    omega

end CloudStub.Rule
