import CloudStub.Reply.Response
import Mathlib.Tactic.Common

/-!
# Values that functions return

A function of the request may return a body, a body and a status, or a body, a status and a
content type.  It may also return a list of values, which are looked at when the answer is
rendered.  A list that spells one of the three is as good as the function that returns it outright,
and any other list is answered by an error in which nothing that was declared is left.

## Main Definitions

- `BodyFunction.WellShaped`: the lists of values that spell a return
- `BodyFunction.Spells`: a list of values against the return of a typed function

## Main Statements

- `BodyFunction.unpack_cases`: a list of values is unpacked exactly when it is well-shaped
- `BodyFunction.Spells.unpack_eq`: it is unpacked to the return that it spells
- `Response.render_values`: how a function of the fourth kind is answered
-/

namespace CloudStub

namespace BodyFunction

/-- The lists of values that spell a return. -/
structure WellShaped (values : List Json) : Prop where
  /-- There is a value. -/
  pos : 1 ≤ values.length
  /-- There are at most three. -/
  few : values.length ≤ 3
  /-- The first one is a text. -/
  body : ∃ s, values[0]? = some (.str s)
  /-- The second one, if there is one, is an integer of three digits. -/
  status : ∀ v, values[1]? = some v → ∃ n : Nat, v = .num (.int n) ∧ 100 ≤ n ∧ n ≤ 999
  /-- The third one, if there is one, is a text. -/
  contentType : ∀ v, values[2]? = some v → ∃ s, v = .str s

/-- A typed function returns for a request what the values spell. -/
inductive Spells (req : Received) : BodyFunction → List Json → Prop where
  /-- A body. -/
  | body (g : Received → String) : Spells req (.body g) [.str (g req)]
  /-- A body and a status. -/
  | bodyStatus (g : Received → String × Nat) :
    Spells req (.bodyStatus g) [.str (g req).1, .num (.int (g req).2)]
  /-- A body, a status and a content type. -/
  | bodyStatusContentType (g : Received → String × Nat × String) :
    Spells req (.bodyStatusContentType g)
      [.str (g req).1, .num (.int (g req).2.1), .str (g req).2.2]

/-- Every well-shaped list spells the return of some typed function. -/
theorem WellShaped.exists_spells {values : List Json} (h : WellShaped values) (req : Received) :
    ∃ g, Spells req g values := by
  obtain ⟨hpos, hfew, ⟨s, hbody⟩, hstatus, htype⟩ := h
  match values with
  | [first] =>
    obtain rfl : first = .str s := by simpa using hbody
    exact ⟨_, .body fun _ => s⟩
  | [first, second] =>
    obtain rfl : first = .str s := by simpa using hbody
    obtain ⟨n, rfl, -⟩ := hstatus second rfl
    exact ⟨_, .bodyStatus fun _ => (s, n)⟩
  | [first, second, third] =>
    obtain rfl : first = .str s := by simpa using hbody
    obtain ⟨n, rfl, -⟩ := hstatus second rfl
    obtain ⟨t, rfl⟩ := htype third rfl
    exact ⟨_, .bodyStatusContentType fun _ => (s, n, t)⟩

/-! ### Unpacking -/

theorem status?_eq_some {v : Json} {n : Nat} (h : status? v = some n) :
    v = .num (.int n) ∧ 100 ≤ n ∧ n ≤ 999 := by
  unfold status? at h
  split at h
  · rename_i i
    split at h
    · rename_i hrange
      rw [Bool.and_eq_true, decide_eq_true_eq, decide_eq_true_eq] at hrange
      obtain rfl : i.toNat = n := Option.some.inj h
      rw [Int.toNat_of_nonneg (by omega)]
      exact ⟨rfl, by omega, by omega⟩
    · cases h
  · cases h

theorem status?_int {n : Nat} (hlo : 100 ≤ n) (hhi : n ≤ 999) :
    status? (.num (.int n)) = some n := by
  have hrange : ((100 : Int) ≤ n && (n : Int) < 1000) = true := by
    rw [Bool.and_eq_true, decide_eq_true_eq, decide_eq_true_eq]
    omega
  rw [status?, if_pos hrange, Int.toNat_natCast]

/-- A number with a fraction is no status, not even when the fraction is zero. -/
example : status? (.num (.int 200)) = some 200 ∧ ∀ x, status? (.num (.float x)) = none :=
  ⟨by decide, fun _ => rfl⟩

theorem unpackBody_cases (first : Option Json) :
    (∃ s, first = some (.str s) ∧ unpackBody first = .ok s) ∨
      ∃ reason, unpackBody first = .error (.invalidFunction reason) := by
  unfold unpackBody
  split
  · rename_i s
    exact .inl ⟨s, rfl, rfl⟩
  · exact .inr ⟨_, rfl⟩

theorem unpackStatus_cases (second : Option Json) :
    (∃ status, (∀ v, second = some v → ∃ n : Nat, v = .num (.int n) ∧ 100 ≤ n ∧ n ≤ 999) ∧
        unpackStatus second = .ok status) ∨
      ∃ reason, unpackStatus second = .error (.invalidFunction reason) := by
  cases second with
  | none => exact .inl ⟨none, nofun, rfl⟩
  | some v =>
    cases hstatus : status? v with
    | none => exact .inr ⟨"invalid status code " ++ v.text, by simp only [unpackStatus, hstatus]⟩
    | some n =>
      refine .inl ⟨some n, ?_, by simp only [unpackStatus, hstatus]⟩
      rintro _ ⟨rfl⟩
      exact ⟨n, status?_eq_some hstatus⟩

theorem unpackContentType_cases (third : Option Json) :
    (∃ contentType, (∀ v, third = some v → ∃ s, v = .str s) ∧
        unpackContentType third = .ok contentType) ∨
      ∃ reason, unpackContentType third = .error (.invalidFunction reason) := by
  unfold unpackContentType
  split
  · exact .inl ⟨none, nofun, rfl⟩
  · rename_i s
    refine .inl ⟨some s, ?_, rfl⟩
    rintro _ ⟨rfl⟩
    exact ⟨s, rfl⟩
  · exact .inr ⟨_, rfl⟩

theorem unpack_of_length {values : List Json} (h : 1 ≤ values.length ∧ values.length ≤ 3) :
    unpack values = (do
      let body ← unpackBody values[0]?
      let status ← unpackStatus values[1]?
      let contentType ← unpackContentType values[2]?
      .ok ⟨body, status, contentType⟩) := by
  have hlength : (values.isEmpty || decide (values.length > 3)) = false := by
    rw [Bool.or_eq_false_iff, decide_eq_false_iff_not, List.isEmpty_eq_false_iff_exists_mem]
    exact ⟨List.exists_mem_of_length_pos h.1, Nat.not_lt.2 h.2⟩
  rw [unpack, hlength]
  rfl

/-- A list of values is unpacked when it is well-shaped; otherwise the fault is in the function. -/
theorem unpack_cases (values : List Json) :
    (WellShaped values ∧ ∃ p, unpack values = .ok p) ∨
      ∃ reason, unpack values = .error (.invalidFunction reason) := by
  by_cases hlength : 1 ≤ values.length ∧ values.length ≤ 3
  · rw [unpack_of_length hlength]
    -- The first of the three that is refused decides.
    obtain ⟨s, hfirst, hbody⟩ | ⟨reason, hbody⟩ := unpackBody_cases values[0]?
    · obtain ⟨status, hsecond, hstatus⟩ | ⟨reason, hstatus⟩ := unpackStatus_cases values[1]?
      · obtain ⟨contentType, hthird, htype⟩ | ⟨reason, htype⟩ :=
          unpackContentType_cases values[2]?
        · refine .inl ⟨⟨hlength.1, hlength.2, ⟨s, hfirst⟩, hsecond, hthird⟩, ?_⟩
          rw [hbody, hstatus, htype]
          exact ⟨_, rfl⟩
        · exact .inr ⟨reason, by rw [hbody, hstatus, htype]; rfl⟩
      · exact .inr ⟨reason, by rw [hbody, hstatus]; rfl⟩
    · exact .inr ⟨reason, by rw [hbody]; rfl⟩
  · have hcount : (values.isEmpty || decide (values.length > 3)) = true := by
      rw [Bool.or_eq_true, decide_eq_true_eq, List.isEmpty_iff_length_eq_zero]
      omega
    rw [unpack, hcount]
    exact .inr ⟨_, rfl⟩

/-- A list of values is unpacked to the return that it spells. -/
theorem Spells.unpack_eq {req : Received} {g : BodyFunction} {values : List Json}
    (h : Spells req g values) (hshape : WellShaped values) : unpack values = g.call req := by
  have hstatus : ∀ n : Nat, values[1]? = some (.num (.int n)) →
      status? (.num (.int n)) = some n := by
    intro n hn
    obtain ⟨m, hm, hlo, hhi⟩ := hshape.status _ hn
    obtain rfl : n = m := by simpa [Int.natCast_inj] using hm
    exact status?_int hlo hhi
  rw [unpack_of_length ⟨hshape.pos, hshape.few⟩]
  cases h with
  | body g => rfl
  | bodyStatus g => simp [unpackBody, unpackStatus, unpackContentType, hstatus _ rfl, call, bind,
      Except.bind]
  | bodyStatusContentType g => simp [unpackBody, unpackStatus, unpackContentType, hstatus _ rfl,
      call, bind, Except.bind]

end BodyFunction

namespace Response

/-- A response with a function of the request for its body. -/
def calling (r : Response) (f : BodyFunction) : Response := { r with body := .function f }

/-- Functions that return alike are answered alike. -/
theorem render_calling_congr {f g : BodyFunction} {req : Received} (h : f.call req = g.call req)
    (r : Response) (declared : Option String) :
    (r.calling f).render req declared = (r.calling g).render req declared := by
  have hdraft : ∀ action, (r.calling f).draft req action = (r.calling g).draft req action := by
    intro action
    simp only [draft, calling, h]
    rfl
  simp only [render, calling] at hdraft ⊢
  rw [hdraft]

/-- A function at fault is answered by an error in the format that the request expects. -/
theorem render_calling_error {f : BodyFunction} {req : Received} {reason : String}
    (h : f.call req = .error (.invalidFunction reason)) (r : Response)
    (declared : Option String) :
    (r.calling f).render req declared = .draft ⟨400, req.format.contentType,
      Utf8.encode ((Fault.new "InvalidBodyFunc" (RenderError.invalidFunction reason).message).body
        req.format), []⟩ := by
  have hdraft : ∀ action, (r.calling f).draft req action = .error (.invalidFunction reason) := by
    intro action
    simp only [draft, calling, h]
    rfl
  simp only [render, calling] at hdraft ⊢
  rw [hdraft]
  cases req.format <;> rfl

/-- How a function is answered that returns a list of values.  A well-shaped list spells the return
of a typed function, and the answer is that to every such function, whatever else is declared.  Any
other list is answered by an error, whose draft is the same whatever is declared. -/
theorem render_values (f : Received → List Json) (req : Received) :
    (BodyFunction.WellShaped (f req) →
      (∃ g, BodyFunction.Spells req g (f req)) ∧
        ∀ g, BodyFunction.Spells req g (f req) → ∀ (r : Response) (declared : Option String),
          (r.calling (.values f)).render req declared = (r.calling g).render req declared) ∧
    (¬ BodyFunction.WellShaped (f req) →
      ∃ message, ∀ (r : Response) (declared : Option String),
        (r.calling (.values f)).render req declared = .draft ⟨400, req.format.contentType,
          Utf8.encode ((Fault.new "InvalidBodyFunc" message).body req.format), []⟩) := by
  constructor
  · intro hshape
    refine ⟨hshape.exists_spells req, fun g hg r declared => ?_⟩
    have hcall : (BodyFunction.values f).call req = g.call req := hg.unpack_eq hshape
    exact render_calling_congr hcall r declared
  · intro hshape
    obtain ⟨h, -⟩ | ⟨reason, hreason⟩ := BodyFunction.unpack_cases (f req)
    · exact absurd h hshape
    · have hcall : (BodyFunction.values f).call req = .error (.invalidFunction reason) := hreason
      exact ⟨_, fun r declared => render_calling_error hcall r declared⟩

end Response

end CloudStub
