import CloudStub.Proofs.Session.Numbering

/-!
# Requests that commute

Two requests that no rule accepts both can be handled in either order.  Each is claimed by the
rule that would have claimed it alone: the other request is counted by a rule that refuses this
one, with or without one more count.

## Main Definitions

- `Rule.winner?`, `Rule.behind`: the rule that claims a request, and all rules behind the request
- `Rule.Apart`: no rule accepts both of two requests

## Main Statements

- `Rule.winner?_behind`: who claims a request does not depend on a request apart from it
- `Rule.behind_comm`: the rules behind two requests that are apart do not depend on their order
- `Session.handle_comm`: two requests that are apart commute

## Design Notes

The rules are compared one by one along the list.  At each position at most one of the two
requests is accepted, so at most one of the two scans stops there, and the other passes by.
-/

namespace CloudStub

/-! ### Rules -/

namespace Rule

/-- The rule that claims a request, with the request counted. -/
def winner? (req : Received) (rules : List Rule) : Option Rule := (claimFirst req rules).map (·.1)

/-- All rules behind a request. -/
def behind (req : Received) (rules : List Rule) : List Rule :=
  match claimFirst req rules with
  | some p => p.2
  | none => rules

variable {req req' : Received} {first rule : Rule} {rest rules : List Rule}

theorem winner?_cons_of_claims (h : first.claims req = true) :
    winner? req (first :: rest) = some first.counted := by
  rw [winner?, claimFirst, claim?_of_claims h]
  rfl

theorem winner?_cons_of_not_claims (h : first.claims req = false) :
    winner? req (first :: rest) = winner? req rest := by
  rw [winner?, claimFirst, claim?_of_not_claims h, winner?]
  cases claimFirst req rest <;> rfl

theorem behind_cons_of_claims (h : first.claims req = true) :
    behind req (first :: rest) = first.counted :: rest := by
  rw [behind, claimFirst, claim?_of_claims h]

theorem behind_cons_of_not_claims (h : first.claims req = false) :
    behind req (first :: rest) = first :: behind req rest := by
  rw [behind, claimFirst, claim?_of_not_claims h, behind]
  cases claimFirst req rest <;> rfl

/-- No rule accepts both of two requests. -/
def Apart (req req' : Received) (rules : List Rule) : Prop :=
  ∀ rule ∈ rules, ¬ (rule.matcher.accepts req = true ∧ rule.matcher.accepts req' = true)

theorem Apart.symm (h : Apart req req' rules) : Apart req' req rules :=
  fun rule hrule hboth => h rule hrule hboth.symm

theorem Apart.tail (h : Apart req req' (first :: rest)) : Apart req req' rest :=
  fun rule hrule => h rule (List.mem_cons_of_mem _ hrule)

/-- The rule that claims one of two requests that are apart refuses the other. -/
theorem Apart.refuses (h : Apart req req' (first :: rest)) (hclaims : first.claims req = true) :
    first.matcher.accepts req' = false := by
  rw [claims, Bool.and_eq_true] at hclaims
  exact Bool.eq_false_iff.2 fun haccepts => h first (List.mem_cons_self ..) ⟨hclaims.2, haccepts⟩

theorem Apart.not_claims (h : Apart req req' (first :: rest)) (hclaims : first.claims req = true) :
    first.claims req' = false := by
  rw [claims, h.refuses hclaims, Bool.and_false]

theorem Apart.counted_not_claims (h : Apart req req' (first :: rest))
    (hclaims : first.claims req = true) : first.counted.claims req' = false := by
  have hrefuses : first.counted.matcher.accepts req' = false := h.refuses hclaims
  rw [claims, hrefuses, Bool.and_false]

/-- Who claims a request does not depend on a request apart from it. -/
theorem winner?_behind (h : Apart req req' rules) :
    winner? req' (behind req rules) = winner? req' rules := by
  induction rules with
  | nil => rfl
  | cons first rest ih =>
    cases hclaims : first.claims req with
    | true =>
      rw [behind_cons_of_claims hclaims, winner?_cons_of_not_claims (h.counted_not_claims hclaims),
        winner?_cons_of_not_claims (h.not_claims hclaims)]
    | false =>
      rw [behind_cons_of_not_claims hclaims]
      cases hclaims' : first.claims req' with
      | true => rw [winner?_cons_of_claims hclaims', winner?_cons_of_claims hclaims']
      | false =>
        rw [winner?_cons_of_not_claims hclaims', winner?_cons_of_not_claims hclaims', ih h.tail]

/-- The rules behind two requests that are apart do not depend on their order. -/
theorem behind_comm (h : Apart req req' rules) :
    behind req' (behind req rules) = behind req (behind req' rules) := by
  induction rules with
  | nil => rfl
  | cons first rest ih =>
    cases hclaims : first.claims req with
    | true =>
      rw [behind_cons_of_claims hclaims, behind_cons_of_not_claims (h.counted_not_claims hclaims),
        behind_cons_of_not_claims (h.not_claims hclaims), behind_cons_of_claims hclaims]
    | false =>
      rw [behind_cons_of_not_claims hclaims]
      cases hclaims' : first.claims req' with
      | true =>
        rw [behind_cons_of_claims hclaims', behind_cons_of_claims hclaims',
          behind_cons_of_not_claims (h.symm.counted_not_claims hclaims')]
      | false =>
        rw [behind_cons_of_not_claims hclaims', behind_cons_of_not_claims hclaims',
          behind_cons_of_not_claims hclaims, ih h.tail]

/-- The rules behind a request declare what they declared before it. -/
theorem numberBlind_behind (h : ∀ rule ∈ rules, rule.declared.NumberBlind) (req : Received) :
    ∀ rule ∈ behind req rules, rule.declared.NumberBlind := by
  induction rules with
  | nil => exact h
  | cons first rest ih =>
    have hfirst := h first (List.mem_cons_self ..)
    have hrest : ∀ rule ∈ rest, rule.declared.NumberBlind :=
      fun rule hrule => h rule (List.mem_cons_of_mem _ hrule)
    cases hclaims : first.claims req with
    | true =>
      rw [behind_cons_of_claims hclaims]
      exact List.forall_mem_cons.2 ⟨hfirst, hrest⟩
    | false =>
      rw [behind_cons_of_not_claims hclaims]
      exact List.forall_mem_cons.2 ⟨hfirst, ih hrest⟩

end Rule

/-! ### Sessions -/

namespace Session

/-- The answer of a winner, or else that of no rule. -/
def reply (r : Received) : Option Rule → Http.Response
  | some rule => rule.respond r
  | none => unmatchedAnswer r

/-- What the monitor adds to its list for a request. -/
def unmatchedBy (r : Received) (rules : List Rule) : List String :=
  if (Rule.winner? r rules).isNone then [r.summary] else []

variable (s : Session) (r : Received)

theorem response_answer : (s.answer r).1 = reply r (Rule.winner? r s.rules) := by
  unfold answer Rule.winner?
  cases Rule.claimFirst r s.rules <;> rfl

theorem rules_answer : (s.answer r).2.1 = Rule.behind r s.rules := by
  unfold answer Rule.behind
  cases Rule.claimFirst r s.rules <;> rfl

theorem policy_answer : (s.answer r).2.2.failOnUnmatched = s.monitor.failOnUnmatched := by
  unfold answer
  cases Rule.claimFirst r s.rules <;> rfl

theorem unmatched_answer :
    (s.answer r).2.2.unmatched = s.monitor.unmatched ++ unmatchedBy r s.rules := by
  unfold answer unmatchedBy Rule.winner?
  cases Rule.claimFirst r s.rules with
  | none => rfl
  | some p => exact (List.append_nil _).symm

theorem failed_answer :
    (s.answer r).2.2.failed =
      (s.monitor.failed || (s.monitor.failOnUnmatched && (Rule.winner? r s.rules).isNone)) := by
  unfold answer Rule.winner?
  cases Rule.claimFirst r s.rules with
  | none =>
    show (s.monitor.failed || s.monitor.failOnUnmatched) =
      (s.monitor.failed || (s.monitor.failOnUnmatched && true))
    rw [Bool.and_true]
  | some p =>
    show s.monitor.failed = (s.monitor.failed || (s.monitor.failOnUnmatched && false))
    rw [Bool.and_false, Bool.or_false]

variable {s} {q q' : Http.Request}

/-- What a session does with a request behind another one that is apart from it: it gives the
answer that it would give without the other request, and the other request leaves its own count
and its own entry. -/
theorem handle_handle (hblind : ∀ rule ∈ s.rules, rule.declared.NumberBlind)
    (hapart : Rule.Apart (.ofRequest s.nextSeq q) (.ofRequest s.nextSeq q') s.rules) :
    let r := Received.ofRequest s.nextSeq q
    let r' := Received.ofRequest s.nextSeq q'
    let both := (s.handle q).2.handle q'
    both.1 = (s.handle q').1 ∧
      both.2.rules = Rule.behind r' (Rule.behind r s.rules) ∧
      both.2.monitor.unmatched =
        s.monitor.unmatched ++ unmatchedBy r s.rules ++ unmatchedBy r' s.rules ∧
      both.2.monitor.failed =
        (s.monitor.failed || (s.monitor.failOnUnmatched && (Rule.winner? r s.rules).isNone) ||
          (s.monitor.failOnUnmatched && (Rule.winner? r' s.rules).isNone)) := by
  intro r r' both
  -- The second request has the next number, which nobody reads.
  have hrules : (s.handle q).2.rules = Rule.behind r s.rules := by
    rw [rules_handle, rules_answer]
  have hnumber : (s.handle q).2.answer (.ofRequest (s.handle q).2.nextSeq q') =
      (s.handle q).2.answer r' := by
    rw [nextSeq_handle, ← Received.numbered_ofRequest s.nextSeq]
    exact answer_numbered (hrules ▸ Rule.numberBlind_behind hblind r) r' _
  have hwinner : Rule.winner? r' (s.handle q).2.rules = Rule.winner? r' s.rules := by
    rw [hrules, Rule.winner?_behind hapart]
  refine ⟨?_, ?_, ?_, ?_⟩
  · rw [response_handle, hnumber, response_answer, hwinner, response_handle, response_answer]
  · rw [rules_handle, hnumber, rules_answer, hrules]
  · rw [monitor_handle, hnumber, unmatched_answer, unmatchedBy, hwinner, ← unmatchedBy,
      monitor_handle, unmatched_answer]
  · rw [monitor_handle, hnumber, failed_answer, hwinner, monitor_handle, failed_answer,
      policy_answer]

/-- Two requests that no rule accepts both commute, whatever the state of the session.  Each has
the same answer in both orders; the rules behind them are the same, with their counts, and so is
the failed flag; and the entries that the two requests add to the unmatched requests trade
places. -/
theorem handle_comm (s : Session) (q q' : Http.Request)
    (hblind : ∀ rule ∈ s.rules, rule.declared.NumberBlind)
    (hapart : ∀ rule ∈ s.rules, ¬ (rule.matcher.accepts (.ofRequest s.nextSeq q) = true ∧
      rule.matcher.accepts (.ofRequest s.nextSeq q') = true)) :
    let one := s.handle q
    let two := one.2.handle q'
    let one' := s.handle q'
    let two' := one'.2.handle q
    two'.1 = one.1 ∧ two.1 = one'.1 ∧ two.2.rules = two'.2.rules ∧
      two.2.monitor.failed = two'.2.monitor.failed ∧
      ∃ added added' : List String,
        one.2.monitor.unmatched = s.monitor.unmatched ++ added ∧
          one'.2.monitor.unmatched = s.monitor.unmatched ++ added' ∧
          two.2.monitor.unmatched = s.monitor.unmatched ++ added ++ added' ∧
          two'.2.monitor.unmatched = s.monitor.unmatched ++ added' ++ added := by
  intro one two one' two'
  have hapart : Rule.Apart (.ofRequest s.nextSeq q) (.ofRequest s.nextSeq q') s.rules := hapart
  obtain ⟨hresponse, hrules, hunmatched, hfailed⟩ := handle_handle hblind hapart
  obtain ⟨hresponse', hrules', hunmatched', hfailed'⟩ := handle_handle hblind hapart.symm
  refine ⟨hresponse', hresponse, ?_, ?_, unmatchedBy (.ofRequest s.nextSeq q) s.rules,
    unmatchedBy (.ofRequest s.nextSeq q') s.rules, ?_, ?_, hunmatched, hunmatched'⟩
  · exact hrules.trans ((Rule.behind_comm hapart).trans hrules'.symm)
  · exact hfailed.trans ((Bool.or_right_comm ..).trans hfailed'.symm)
  · exact unmatched_answer s _
  · exact unmatched_answer s _

/-- A rule for one request for a path. -/
def pathRule (path : String) : Declared :=
  ({ Matcher.any with path := some path, limit := some 1 }, .ofBody (.text path))

/-- A request for a path. -/
def pathRequest (path : String) : Http.Request :=
  { (default : Http.Request) with uri := { Http.Uri.root with rawPath := path } }

/-- A session with a rule for each of two paths, the first of which is used up. -/
def pathSession : Session :=
  ((fresh [pathRule "/a", pathRule "/b"] true (.new .enabled false) (.initial none) 1).handle
    (pathRequest "/a")).2

theorem numberBlind_pathSession : ∀ rule ∈ pathSession.rules, rule.declared.NumberBlind := by
  have hpath : ∀ path, (pathRule path).NumberBlind :=
    fun path => Declared.numberBlind_text rfl path
  rw [pathSession, rules_handle, rules_answer]
  apply Rule.numberBlind_behind
  exact List.forall_mem_cons.2 ⟨hpath "/a", List.forall_mem_singleton.2 (hpath "/b")⟩

/-- A request for the path that is used up is unmatched, and commutes with one for the other. -/
theorem handle_comm_paths :
    (∀ rule ∈ pathSession.rules, rule.declared.NumberBlind) ∧
      (∀ rule ∈ pathSession.rules,
        ¬ (rule.matcher.accepts (.ofRequest pathSession.nextSeq (pathRequest "/a")) = true ∧
          rule.matcher.accepts (.ofRequest pathSession.nextSeq (pathRequest "/b")) = true)) ∧
      let one := pathSession.handle (pathRequest "/a")
      let two := one.2.handle (pathRequest "/b")
      let one' := pathSession.handle (pathRequest "/b")
      let two' := one'.2.handle (pathRequest "/a")
      two'.1 = one.1 ∧ two.1 = one'.1 ∧ two.2.rules = two'.2.rules ∧
        two.2.monitor.failed = two'.2.monitor.failed ∧
        ∃ added added' : List String,
          one.2.monitor.unmatched = pathSession.monitor.unmatched ++ added ∧
            one'.2.monitor.unmatched = pathSession.monitor.unmatched ++ added' ∧
            two.2.monitor.unmatched = pathSession.monitor.unmatched ++ added ++ added' ∧
            two'.2.monitor.unmatched = pathSession.monitor.unmatched ++ added' ++ added := by
  have hapart : ∀ rule ∈ pathSession.rules,
      ¬ (rule.matcher.accepts (.ofRequest pathSession.nextSeq (pathRequest "/a")) = true ∧
        rule.matcher.accepts (.ofRequest pathSession.nextSeq (pathRequest "/b")) = true) := by
    decide +kernel
  exact ⟨numberBlind_pathSession, hapart,
    handle_comm pathSession _ _ numberBlind_pathSession hapart⟩

end Session

end CloudStub
