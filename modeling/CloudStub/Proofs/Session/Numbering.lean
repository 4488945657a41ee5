import CloudStub.Proofs.Session.History

/-!
# Numbers of requests

Requests are numbered as they arrive.  A rule can read the number of a request, but only through
the functions that it was declared with: its predicate, its body function, its handler.  A rule
whose functions do not read the number accepts and answers a request whatever its number is, and
so a sequence of requests has the same winners and the same answers wherever the count begins.

## Main Definitions

- `Received.numbered`: a request with another number
- `NumberBlind`: a function of requests that does not read their number
- `Declared.NumberBlind`: a declared rule whose functions do not read it
- `Rule.declared`: what a rule declares

## Main Statements

- `Declared.NumberBlind.accepts_numbered`, `Rule.respond_numbered`: what such a rule accepts, and
  what it answers
- `Session.answer_numbered`: what a session of such rules answers and remembers
- `History.renumber`, `zipWith_answerOf_renumber`: the winners and the answers of a sequence of
  requests do not depend on where the count begins

## Design Notes

The statements about sequences are for two counts that begin at the same number or rules that do
not read it.  So they also speak about rules that do read it, as long as the counts agree.
-/

namespace CloudStub

/-! ### One request -/

/-- A request with another number. -/
def Received.numbered (r : Received) (n : Nat) : Received := { r with seq := n }

theorem Received.numbered_ofRequest (m n : Nat) (req : Http.Request) :
    (Received.ofRequest m req).numbered n = Received.ofRequest n req := by
  simp only [numbered, ofRequest]

/-- A function of requests that does not read their number. -/
def NumberBlind {α : Type} (f : Received → α) : Prop :=
  ∀ (r : Received) (n : Nat), f (r.numbered n) = f r

/-- A body whose function or handler does not read the number of a request. -/
def Body.NumberBlind : Body → Prop
  | .function f => CloudStub.NumberBlind f.call
  | .handler f => CloudStub.NumberBlind f
  | _ => True

/-- A declared rule whose functions do not read the number of a request. -/
structure Declared.NumberBlind (d : Declared) : Prop where
  /-- Its predicate does not. -/
  predicate : ∀ f, d.1.predicate = some f → CloudStub.NumberBlind f
  /-- Its body does not. -/
  body : d.2.body.NumberBlind

/-- A rule without a predicate that answers a text has no function that could read anything. -/
theorem Declared.numberBlind_text {m : Matcher} (hm : m.predicate = none) (s : String) :
    Declared.NumberBlind (m, .ofBody (.text s)) where
  predicate f hf := by
    rw [hm] at hf
    cases hf
  body := trivial

theorem unmatchedAnswer_numbered (r : Received) (n : Nat) :
    unmatchedAnswer (r.numbered n) = unmatchedAnswer r := rfl

namespace Declared.NumberBlind

variable {d : Declared}

theorem accepts_numbered (h : d.NumberBlind) (r : Received) (n : Nat) :
    d.1.accepts (r.numbered n) = d.1.accepts r := by
  have hpredicate : (d.1.predicate.all fun f => f (r.numbered n)) =
      d.1.predicate.all fun f => f r := by
    cases hf : d.1.predicate with
    | none => rfl
    | some f => exact h.predicate f hf r n
  -- The other conditions look at fields that renumbering keeps.
  unfold Matcher.accepts
  rw [hpredicate]
  rfl

theorem render_numbered (h : d.NumberBlind) (r : Received) (n : Nat) (action : Option String) :
    d.2.render (r.numbered n) action = d.2.render r action := by
  have hbody := h.body
  unfold Response.render Response.draft
  cases hd : d.2.body with
  | function f =>
    rw [hd] at hbody
    have hcall : f.call (r.numbered n) = f.call r := hbody r n
    simp only [hcall]
    rfl
  | handler f =>
    rw [hd] at hbody
    have hcall : f (r.numbered n) = f r := hbody r n
    simp only [hcall]
  | empty => rfl
  | text s => rfl
  | bytes b => rfl
  | structured v => rfl

end Declared.NumberBlind

namespace Rule

/-- What a rule declares. -/
def declared (rule : Rule) : Declared := (rule.matcher, rule.response)

theorem respond_numbered {rule : Rule} (h : rule.declared.NumberBlind) (r : Received) (n : Nat) :
    rule.respond (r.numbered n) = rule.respond r := by
  have hrender := h.render_numbered r n rule.matcher.action
  exact congrArg Rendered.toMessage hrender

theorem claim?_numbered {rule : Rule} (h : rule.declared.NumberBlind) (r : Received) (n : Nat) :
    rule.claim? (r.numbered n) = rule.claim? r := by
  have haccepts : rule.matcher.accepts (r.numbered n) = rule.matcher.accepts r :=
    h.accepts_numbered r n
  rw [claim?, claim?, haccepts]

/-- Which rule claims a request does not depend on its number. -/
theorem claimFirst_numbered {rules : List Rule} (h : ∀ rule ∈ rules, rule.declared.NumberBlind)
    (r : Received) (n : Nat) : claimFirst (r.numbered n) rules = claimFirst r rules := by
  induction rules with
  | nil => rfl
  | cons first rest ih =>
    rw [claimFirst, claimFirst, claim?_numbered (h first (List.mem_cons_self ..)),
      ih fun rule hrule => h rule (List.mem_cons_of_mem _ hrule)]

/-- A claimed request is answered by a rule that declares what one of the list declares. -/
theorem declared_of_claimFirst {r : Received} {rules rules' : List Rule} {rule : Rule}
    (h : claimFirst r rules = some (rule, rules')) :
    ∃ rule' ∈ rules, rule.declared = rule'.declared := by
  rcases claimFirst_cases r rules with ⟨-, hnone⟩ | ⟨k, rule', hk, -, -, hsome⟩
  · rw [hnone] at h
    cases h
  · rw [hsome, Option.some.injEq, Prod.mk.injEq] at h
    obtain ⟨rfl, -⟩ := h
    exact ⟨rule', List.mem_of_getElem? hk, rfl⟩

end Rule

/-- What a session answers and remembers does not depend on the number of a request. -/
theorem Session.answer_numbered {s : Session} (h : ∀ rule ∈ s.rules, rule.declared.NumberBlind)
    (r : Received) (n : Nat) : s.answer (r.numbered n) = s.answer r := by
  cases hclaim : Rule.claimFirst r s.rules with
  | none =>
    rw [answer_of_none hclaim, answer_of_none ((Rule.claimFirst_numbered h r n).trans hclaim)]
    rfl
  | some p =>
    obtain ⟨rule, rules⟩ := p
    obtain ⟨rule', hmem, hdeclared⟩ := Rule.declared_of_claimFirst hclaim
    have hblind : rule.declared.NumberBlind := hdeclared ▸ h rule' hmem
    rw [answer_of_some hclaim, answer_of_some ((Rule.claimFirst_numbered h r n).trans hclaim),
      Rule.respond_numbered hblind]

/-! ### Sequences of requests -/

variable {declared : List Declared} {first first' : Nat} {reqs : List Http.Request}
  {ws : List (Option Nat)}

namespace Session

theorem getElem?_classified (first : Nat) (reqs : List Http.Request) (i : Nat) :
    (classified first reqs)[i]? = reqs[i]?.map (Received.ofRequest (first + i)) := by
  induction reqs generalizing first i with
  | nil => rfl
  | cons req rest ih =>
    cases i with
    | zero => rfl
    | succ i =>
      rw [classified, List.getElem?_cons_succ, List.getElem?_cons_succ, ih,
        Nat.add_assoc, Nat.add_comm 1 i]

/-- The same requests, counted from elsewhere. -/
theorem classified_renumber (first first' : Nat) (reqs : List Http.Request) {i : Nat}
    {r : Received} (h : (classified first' reqs)[i]? = some r) :
    (classified first reqs)[i]? = some (r.numbered (first + i)) := by
  rw [getElem?_classified, Option.map_eq_some_iff] at h
  obtain ⟨req, hreq, rfl⟩ := h
  rw [getElem?_classified, hreq, Option.map_some, Received.numbered_ofRequest]

end Session

open Session

theorem Eligible.of_numbered (hblind : ∀ d ∈ declared, d.NumberBlind) {r : Received} {n k : Nat} :
    Eligible declared ws (r.numbered n) k ↔ Eligible declared ws r k := by
  constructor
  · rintro ⟨d, hd, haccepts, hlimit⟩
    rw [(hblind d (List.mem_of_getElem? hd)).accepts_numbered] at haccepts
    exact ⟨d, hd, haccepts, hlimit⟩
  · rintro ⟨d, hd, haccepts, hlimit⟩
    rw [← (hblind d (List.mem_of_getElem? hd)).accepts_numbered r n] at haccepts
    exact ⟨d, hd, haccepts, hlimit⟩

theorem Wins.of_numbered (hblind : ∀ d ∈ declared, d.NumberBlind) {r : Received} {n : Nat}
    {w : Option Nat} (h : Wins declared ws (r.numbered n) w) : Wins declared ws r w := by
  cases w with
  | none => exact fun k helig => h k ((Eligible.of_numbered hblind).2 helig)
  | some k =>
    obtain ⟨helig, hbefore⟩ := h
    exact ⟨(Eligible.of_numbered hblind).1 helig,
      fun j hj hother => hbefore j hj ((Eligible.of_numbered hblind).2 hother)⟩

theorem answerOf_numbered (hblind : ∀ d ∈ declared, d.NumberBlind) (r : Received) (n : Nat)
    (w : Option Nat) : answerOf declared (r.numbered n) w = answerOf declared r w := by
  unfold answerOf
  cases hw : w.bind fun k => declared[k]? with
  | none => exact unmatchedAnswer_numbered r n
  | some d =>
    obtain ⟨k, -, hd⟩ := Option.bind_eq_some_iff.1 hw
    have hd : (Rule.new d.1 d.2).declared.NumberBlind := hblind d (List.mem_of_getElem? hd)
    exact Rule.respond_numbered hd r n

/-- The winners of a sequence of requests do not depend on where the count begins. -/
theorem History.renumber (hnumber : first = first' ∨ ∀ d ∈ declared, d.NumberBlind)
    (h : History declared (classified first reqs) ws) :
    History declared (classified first' reqs) ws := by
  rcases hnumber with rfl | hblind
  · exact h
  · refine ⟨?_, ?_⟩
    · rw [h.length_eq, length_classified, length_classified]
    · intro i r w hr hw
      exact (h.wins i _ w (classified_renumber first first' reqs hr) hw).of_numbered hblind

/-- The answers of the winners do not depend on where the count begins. -/
theorem zipWith_answerOf_renumber (hnumber : first = first' ∨ ∀ d ∈ declared, d.NumberBlind)
    (reqs : List Http.Request) (ws : List (Option Nat)) :
    List.zipWith (answerOf declared) (classified first reqs) ws =
      List.zipWith (answerOf declared) (classified first' reqs) ws := by
  rcases hnumber with rfl | hblind
  · rfl
  · induction reqs generalizing first first' ws with
    | nil => rfl
    | cons req rest ih =>
      cases ws with
      | nil => rfl
      | cons w ws =>
        have hrest := @ih (first + 1) (first' + 1) ws
        rw [classified, classified, List.zipWith_cons_cons, List.zipWith_cons_cons, hrest,
          ← Received.numbered_ofRequest first' first, answerOf_numbered hblind]

/-- The descriptions of the requests without a winner do not depend on where the count begins. -/
theorem summary_unclaimed_renumber (first first' : Nat) (reqs : List Http.Request)
    (ws : List (Option Nat)) :
    (unclaimed (classified first reqs) ws).map Received.summary =
      (unclaimed (classified first' reqs) ws).map Received.summary := by
  induction reqs generalizing first first' ws with
  | nil => rfl
  | cons req rest ih =>
    cases ws with
    | nil => rfl
    | cons w ws =>
      rw [classified, classified, unclaimed_cons, unclaimed_cons, List.map_append,
        List.map_append, ih (first + 1) (first' + 1)]
      cases w <;> rfl

end CloudStub
