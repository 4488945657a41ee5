import CloudStub.Proofs.Request.Parameters
import CloudStub.Proofs.Rule.Conditions

/-!
# Strict matchers

A strict matcher compares the parameters of a request with the declared ones as a whole, where a
lenient one looks up what is declared.  Both agree but for parameters that nobody declared.

## Main Definitions

- `Matcher.leniently`: the matcher that lets undeclared parameters pass
- `Matcher.Declares`: the names of the declared parameters

## Main Statements

- `Matcher.params_eq_iff`: equality of parameters as a condition on each name
- `Matcher.accepts_strictly`: strict acceptance is lenient acceptance without undeclared names
-/

namespace CloudStub.Matcher

/-- The matcher that lets undeclared parameters pass. -/
def leniently (m : Matcher) : Matcher := { m with strict := false }

/-- A name among the declared parameters; there is none when no parameters are declared. -/
def Declares (m : Matcher) (name : String) : Prop :=
  ∃ declared, m.params = some declared ∧ name ∈ declared.names

theorem declares_iff {m : Matcher} {name : String} :
    m.Declares name ↔ name ∈ (m.params.getD Dict.empty).names := by
  have hempty : name ∉ (Dict.empty : Params).names := Dict.notMem_names.2 rfl
  cases hparams : m.params with
  | none => simp [Declares, hparams, hempty]
  | some declared => simp [Declares, hparams]

/-- The declared parameters are the actual ones when each declared one is met and no other name
is there. -/
theorem params_eq_iff {m : Matcher} {actual : Params} :
    m.params.getD Dict.empty = actual ↔
      meetsParams m.params actual = true ∧ ∀ name ∈ actual.names, m.Declares name := by
  simp only [Dict.eq_iff_names, meetsParams_iff, declares_iff]

theorem accepts_strictly_iff (m : Matcher) (r : Received) :
    m.strictly.accepts r = true ↔
      (m.meetsTarget r = true ∧ m.meetsPayload r = true ∧
        (m.predicate.all fun f => f r) = true) ∧ m.params.getD Dict.empty = r.params := by
  have haccepts : m.strictly.accepts r =
      (m.meetsTarget r && true && m.meetsPayload r && (m.predicate.all fun f => f r) &&
        decide (m.params.getD Dict.empty = r.params)) := rfl
  simp only [haccepts, Bool.and_true, Bool.and_eq_true, decide_eq_true_eq, and_assoc]

theorem accepts_leniently_iff (m : Matcher) (r : Received) :
    m.leniently.accepts r = true ↔
      (m.meetsTarget r = true ∧ m.meetsPayload r = true ∧
        (m.predicate.all fun f => f r) = true) ∧ meetsParams m.params r.params = true := by
  have haccepts : m.leniently.accepts r =
      (m.meetsTarget r && meetsParams m.params r.params && m.meetsPayload r &&
        (m.predicate.all fun f => f r) && true) := rfl
  simp only [haccepts, Bool.and_true, Bool.and_eq_true]
  exact ⟨fun ⟨⟨⟨htarget, hparams⟩, hpayload⟩, hlast⟩ => ⟨⟨htarget, hpayload, hlast⟩, hparams⟩,
    fun ⟨⟨htarget, hpayload, hlast⟩, hparams⟩ => ⟨⟨⟨htarget, hparams⟩, hpayload⟩, hlast⟩⟩

/-- Strict acceptance is lenient acceptance of a request all of whose parameters are declared.  The
parameters of a classified request are those of its form body and of its query. -/
theorem accepts_strictly (m : Matcher) :
    (∀ r, m.strictly.accepts r = true ↔
      m.leniently.accepts r = true ∧ ∀ name ∈ r.params.names, m.Declares name) ∧
    ∀ seq req name, name ∈ (Received.ofRequest seq req).params.names ↔
      name ∈ (Received.formPairs req).map Prod.fst ∨
        name ∈ (Received.queryPairs req).map Prod.fst := by
  refine ⟨fun r => ?_, Received.mem_names_params⟩
  rw [accepts_strictly_iff, accepts_leniently_iff, params_eq_iff]
  exact and_assoc.symm

/-- One declared parameter, and a request that has it beside another one. -/
example :
    let m := any.add (.param "Name" "a")
    let r := { (default : Received) with params := (Dict.empty.push "Name" "a").push "Other" "x" }
    m.leniently.accepts r = true ∧ m.strictly.accepts r = false := by
  decide +kernel

end CloudStub.Matcher
