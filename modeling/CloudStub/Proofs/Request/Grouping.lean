import CloudStub.Proofs.Request.Format
import Mathlib.Algebra.GroupWithZero.Nat

/-!
# Parameters as groups of pairs

The parameters of a request are the pairs of its form body and then those of its query, grouped by
their names.  Grouping keeps every pair: the values of a name are the ones that the pairs give it,
in the order of the pairs, and there are as many values as there are pairs.

## Main Definitions

- `Dict.pairs`: the entries of a dictionary of lists, one pair for each value
- `Params.Groups`: parameters hold the values of some pairs, name by name
- `Received.CarriesForm`: a request whose body is decoded as a form

## Main Statements

- `Dict.pairs_push`: a value that is added is one more pair
- `Params.groups_append`, `Params.pairs_append`: what grouping does with the pairs
- `Received.params_group`: the parameters of a request
-/

namespace CloudStub

/-! ### Entries with several values -/

namespace Dict

variable {α : Type}

/-- The entries of a dictionary of lists, one pair for each value. -/
def pairs (d : Dict (List α)) : List (String × α) :=
  d.toList.flatMap fun e => e.2.map fun value => (e.1, value)

theorem length_pairs (d : Dict (List α)) :
    d.pairs.length = (d.toList.map fun e => e.2.length).sum := by
  rw [pairs, List.length_flatMap]
  simp

/-- A value that is added is one more pair, and none of the others is lost. -/
theorem pairs_push (d : Dict (List α)) (key : String) (value : α) :
    (d.push key value).pairs.Perm ((key, value) :: d.pairs) := by
  have hentries : ∀ entries : List (String × List α),
      ((Entries.update key (fun old => old.getD [] ++ [value]) entries).flatMap
          fun e => e.2.map fun value => (e.1, value)).Perm
        ((key, value) :: entries.flatMap fun e => e.2.map fun value => (e.1, value)) := by
    intro entries
    induction entries with
    | nil => exact List.Perm.refl _
    | cons e rest ih =>
      obtain ⟨k, values⟩ := e
      rw [Entries.update]
      split
      · exact List.Perm.refl _
      · split
        · rename_i hkey
          subst hkey
          -- The new value comes behind those that the key has.
          simp only [List.flatMap_cons, Option.getD_some, List.map_append, List.map_cons,
            List.map_nil, List.append_assoc, List.singleton_append]
          exact List.perm_middle
        · rw [List.flatMap_cons, List.flatMap_cons]
          exact (ih.append_left _).trans List.perm_middle
  rw [pairs, push, toList_update]
  exact hentries d.toList

end Dict

/-! ### Grouping -/

namespace Form

theorem valuesOf_append (name : String) (first second : List (String × String)) :
    valuesOf name (first ++ second) = valuesOf name first ++ valuesOf name second := by
  rw [valuesOf, List.filter_append, List.map_append]
  rfl

end Form

namespace Params

/-- Parameters hold the values that pairs give to each name, and no other names. -/
structure Groups (params : Params) (pairs : List (String × String)) : Prop where
  /-- The values of a name are those of its pairs, in order. -/
  values : ∀ name, (params.get? name).getD [] = Form.valuesOf name pairs
  /-- A name is there as soon as it has a value. -/
  names : ∀ name, name ∈ params.names ↔ Form.valuesOf name pairs ≠ []

theorem append_append (params : Params) (first second : List (String × String)) :
    (params.append first).append second = params.append (first ++ second) :=
  (List.foldl_append ..).symm

/-- Decoded pairs are grouped by their names. -/
theorem groups_append (pairs : List (String × String)) :
    Groups (Params.append Dict.empty pairs) pairs := by
  constructor
  · intro name
    rw [get?_append]
    split
    · rename_i hnone
      rw [hnone]
      rfl
    · simp
  · intro name
    rw [mem_names_append, Ne, Form.valuesOf_eq_nil, Decidable.not_not]
    exact or_iff_right (Dict.notMem_names.2 rfl)

/-- Grouping keeps all pairs, each as often as it comes. -/
theorem pairs_append (params : Params) (pairs : List (String × String)) :
    (Dict.pairs (params.append pairs)).Perm (Dict.pairs params ++ pairs) := by
  induction pairs generalizing params with
  | nil => rw [List.append_nil]; exact List.Perm.refl _
  | cons kv rest ih =>
    have hpush := (Dict.pairs_push params kv.1 kv.2).append_right rest
    exact ((ih _).trans hpush).trans List.perm_middle.symm

/-- There are as many values as there are pairs. -/
theorem sum_length_append (pairs : List (String × String)) :
    ((Params.append Dict.empty pairs).toList.map fun e => e.2.length).sum = pairs.length := by
  rw [← Dict.length_pairs, (pairs_append Dict.empty pairs).length_eq]
  rfl

end Params

/-! ### Requests -/

namespace Received

/-- The body is declared to be a form, and the method is one of those that carry forms. -/
structure CarriesForm (req : Http.Request) : Prop where
  /-- The method is one of those that carry forms. -/
  method : req.method.name = "POST" ∨ req.method.name = "PUT" ∨ req.method.name = "PATCH"
  /-- The body is declared to be a form. -/
  form : ∃ contentType, req.field? "content-type" = some contentType ∧
    MediaType.NamesForm contentType

theorem carriesForm_iff_checks (req : Http.Request) :
    CarriesForm req ↔ (isForm req && req.method.carriesForm) = true := by
  rw [Bool.and_eq_true, isForm_iff, carriesForm_iff]
  exact ⟨fun h => ⟨h.form, h.method⟩, fun h => ⟨h.2, h.1⟩⟩

theorem formPairs_of_carriesForm {req : Http.Request} (h : CarriesForm req) :
    formPairs req = Form.pairs req.body :=
  if_pos ((carriesForm_iff_checks req).1 h)

theorem formPairs_of_not_carriesForm {req : Http.Request} (h : ¬ CarriesForm req) :
    formPairs req = [] :=
  if_neg (mt (carriesForm_iff_checks req).2 h)

theorem formParams_eq (seq : Nat) (req : Http.Request) :
    (ofRequest seq req).formParams = Params.append Dict.empty (formPairs req) := by
  rw [ofRequest]

/-- The pairs of the query come behind those of the form body. -/
theorem params_eq (seq : Nat) (req : Http.Request) :
    (ofRequest seq req).params =
      Params.append Dict.empty (formPairs req ++ queryPairs req) := by
  rw [← Params.append_append, ofRequest]

theorem queryPairs_eq (req : Http.Request) :
    queryPairs req = ((req.uri.query.map Utf8.encode).map Form.pairs).getD [] := by
  rw [queryPairs]
  cases req.uri.query <;> rfl

/-- The parameters of a request are the pairs of its form body, which only some requests have, and
behind them the pairs of its query: for each name the values of the first and then those of the
second, in order, and as many values as there are pairs.  The parameters of the form body are its
pairs alone. -/
theorem params_group (seq : Nat) (req : Http.Request) :
    let r := ofRequest seq req
    let body := formPairs req
    let query := queryPairs req
    ((CarriesForm req → body = Form.pairs req.body) ∧ (¬ CarriesForm req → body = [])) ∧
      query = ((req.uri.query.map Utf8.encode).map Form.pairs).getD [] ∧
      (∀ name,
        (r.params.get? name).getD [] = Form.valuesOf name body ++ Form.valuesOf name query ∧
          (name ∈ r.params.names ↔
            Form.valuesOf name body ++ Form.valuesOf name query ≠ [])) ∧
      (∀ name,
        (r.formParams.get? name).getD [] = Form.valuesOf name body ∧
          (name ∈ r.formParams.names ↔ Form.valuesOf name body ≠ [])) ∧
      (r.params.toList.map fun e => e.2.length).sum = body.length + query.length ∧
      (r.formParams.toList.map fun e => e.2.length).sum = body.length := by
  intro r body query
  have hparams : r.params = Params.append Dict.empty (body ++ query) := params_eq seq req
  have hformParams : r.formParams = Params.append Dict.empty body := formParams_eq seq req
  have hall := Params.groups_append (body ++ query)
  have hbody := Params.groups_append body
  refine ⟨⟨formPairs_of_carriesForm, formPairs_of_not_carriesForm⟩, queryPairs_eq req,
    fun name => ?_, fun name => ?_, ?_, ?_⟩
  · rw [hparams, ← Form.valuesOf_append]
    exact ⟨hall.values name, hall.names name⟩
  · rw [hformParams]
    exact ⟨hbody.values name, hbody.names name⟩
  · rw [hparams, Params.sum_length_append, List.length_append]
  · rw [hformParams, Params.sum_length_append]

end Received

end CloudStub
