import CloudStub.Request.Received

/-!
# Parameters of a request

Decoded pairs are grouped by their names.  The values of a name are those that the pairs give it,
in the order of the pairs, and a name is there as soon as one pair has it.

## Main Definitions

- `Dict.names`: the keys of a dictionary
- `Form.valuesOf`: the values that pairs give to a name

## Main Statements

- `Dict.eq_iff_names`: equality from look-ups in one direction and names in the other
- `Params.get?_append`: the values of a name behind several more pairs
- `Received.mem_names_params`: the parameters of a request are those of its body and of its query
- `Received.formAction_eq_lookup`: the operation that a form body names
-/

namespace CloudStub

/-! ### Names -/

namespace Dict

variable {α : Type}

/-- The keys, in order. -/
def names (d : Dict α) : List String := d.toList.map Prod.fst

theorem mem_names {d : Dict α} {name : String} :
    name ∈ d.names ↔ ∃ value, d.get? name = some value := by
  rw [names, mem_keys, Option.isSome_iff_exists]

theorem notMem_names {d : Dict α} {name : String} : name ∉ d.names ↔ d.get? name = none := by
  rw [names, mem_keys, Bool.not_eq_true, Option.isSome_eq_false_iff, Option.isNone_iff_eq_none]

/-- A dictionary is another one when that one has all its entries and no further names. -/
theorem eq_iff_names {a b : Dict α} :
    a = b ↔ (∀ name value, a.get? name = some value → b.get? name = some value) ∧
      ∀ name ∈ b.names, name ∈ a.names := by
  constructor
  · rintro rfl
    exact ⟨fun _ _ h => h, fun _ h => h⟩
  · rintro ⟨hentries, hnames⟩
    refine ext_get? fun name => ?_
    cases ha : a.get? name with
    | some value => exact (hentries name value ha).symm
    | none =>
      have hb : name ∉ b.names := fun h => notMem_names.2 ha (hnames name h)
      exact (notMem_names.1 hb).symm

end Dict

/-! ### Decoded pairs -/

namespace Form

/-- The values that pairs give to a name, in order. -/
def valuesOf (name : String) (pairs : List (String × String)) : List String :=
  (pairs.filter fun kv => kv.1 == name).map Prod.snd

theorem valuesOf_cons_self (name value : String) (pairs : List (String × String)) :
    valuesOf name ((name, value) :: pairs) = value :: valuesOf name pairs := by
  simp [valuesOf]

theorem valuesOf_cons_of_ne {name key : String} (h : key ≠ name) (value : String)
    (pairs : List (String × String)) :
    valuesOf name ((key, value) :: pairs) = valuesOf name pairs := by
  simp [valuesOf, h]

theorem valuesOf_eq_nil {name : String} {pairs : List (String × String)} :
    valuesOf name pairs = [] ↔ name ∉ pairs.map Prod.fst := by
  simp [valuesOf, List.filter_eq_nil_iff]
  grind

/-- The first value of a name is the one that looking up the name finds. -/
theorem head?_valuesOf (name : String) (pairs : List (String × String)) :
    (valuesOf name pairs).head? = pairs.lookup name := by
  induction pairs with
  | nil => rfl
  | cons kv rest ih =>
    obtain ⟨key, value⟩ := kv
    by_cases h : key = name
    · subst h
      simp [valuesOf_cons_self]
    · have hlookup : ((key, value) :: rest).lookup name = rest.lookup name := by
        rw [List.lookup_cons, beq_eq_false_iff_ne.2 (Ne.symm h)]
      rw [valuesOf_cons_of_ne h, ih, hlookup]

end Form

/-- The values of a name behind several more pairs: those that it had, then those that the pairs
give it. -/
theorem Params.get?_append (params : Params) (pairs : List (String × String)) (name : String) :
    (params.append pairs).get? name =
      if Form.valuesOf name pairs = [] then params.get? name
      else some ((params.get? name).getD [] ++ Form.valuesOf name pairs) := by
  induction pairs generalizing params with
  | nil => rfl
  | cons kv rest ih =>
    obtain ⟨key, value⟩ := kv
    have hstep : params.append ((key, value) :: rest) =
        Params.append (params.push key value) rest := rfl
    rw [hstep, ih]
    by_cases h : key = name
    · subst h
      rw [Form.valuesOf_cons_self, Dict.get?_push_self]
      by_cases hrest : Form.valuesOf key rest = []
      · simp [hrest]
      · simp [hrest]
    · rw [Form.valuesOf_cons_of_ne h, Dict.get?_push_of_ne params (Ne.symm h)]

theorem Params.mem_names_append {params : Params} {pairs : List (String × String)}
    {name : String} :
    name ∈ (params.append pairs).names ↔ name ∈ params.names ∨ name ∈ pairs.map Prod.fst := by
  rw [Dict.mem_names, Params.get?_append]
  by_cases h : Form.valuesOf name pairs = []
  · rw [if_pos h, ← Dict.mem_names, or_iff_left (Form.valuesOf_eq_nil.1 h)]
  · rw [if_neg h]
    have hpair : name ∈ pairs.map Prod.fst := Decidable.of_not_not (mt Form.valuesOf_eq_nil.2 h)
    exact iff_of_true ⟨_, rfl⟩ (Or.inr hpair)

/-! ### Requests -/

namespace Received

/-- The parameters of a request are those of its form body and those of its query. -/
theorem mem_names_params (seq : Nat) (req : Http.Request) (name : String) :
    name ∈ (ofRequest seq req).params.names ↔
      name ∈ (formPairs req).map Prod.fst ∨ name ∈ (queryPairs req).map Prod.fst := by
  have hnone : name ∉ (Dict.empty : Params).names := Dict.notMem_names.2 rfl
  have hparams : (ofRequest seq req).params =
      (Params.append Dict.empty (formPairs req)).append (queryPairs req) := rfl
  rw [hparams, Params.mem_names_append, Params.mem_names_append, or_iff_right hnone]

/-- A form body names an operation by the first value of the parameter for it. -/
theorem formAction_eq_lookup (pairs : List (String × String)) :
    formAction (Params.append Dict.empty pairs) = pairs.lookup "Action" := by
  rw [formAction, Params.get?_append, ← Form.head?_valuesOf]
  by_cases h : Form.valuesOf "Action" pairs = []
  · simp [h]
  · simp [h]

end Received

end CloudStub
