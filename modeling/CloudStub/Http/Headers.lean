import CloudStub.Http.Token

/-!
# Headers

A header section keeps the values of each name together, names in the order in which they first
appeared.  Names are given in lower case.

## Main Definitions

- `Http.Headers`: a header section with values of some type
- `Headers.append`: adds a value behind the values of its name
- `Headers.insert`: replaces all values of a name, which keeps its place
- `Headers.values`, `Headers.first?`: look-up

## Main Statements

- `Headers.values_insert_self`, `Headers.values_insert_of_ne`: what a replacement does to look-ups
-/

namespace CloudStub.Http

variable {ν : Type}

/-- A header section: each name with its values. -/
structure Headers (ν : Type) where
  /-- The names in order of first appearance, each with its values in order. -/
  groups : List (String × List ν)
  deriving Repr

namespace Headers

/-- The header section without fields. -/
def empty : Headers ν := ⟨[]⟩

instance : Inhabited (Headers ν) := ⟨empty⟩

instance : EmptyCollection (Headers ν) := ⟨empty⟩

/-- Changes the values of a name in its place; a new name comes last. -/
def updateGroups (name : String) (f : List ν → List ν) :
    List (String × List ν) → List (String × List ν)
  | [] => [(name, f [])]
  | (n, vs) :: rest => if n = name then (n, f vs) :: rest else (n, vs) :: updateGroups name f rest

/-- Adds a value behind the values of its name. -/
def append (h : Headers ν) (name : String) (value : ν) : Headers ν :=
  ⟨updateGroups name (· ++ [value]) h.groups⟩

/-- Replaces all values of a name by one value. -/
def insert (h : Headers ν) (name : String) (value : ν) : Headers ν :=
  ⟨updateGroups name (fun _ => [value]) h.groups⟩

/-- The values of a name among groups. -/
def groupValues (name : String) : List (String × List ν) → List ν
  | [] => []
  | (n, vs) :: rest => if n = name then vs else groupValues name rest

/-- The values of a name. -/
def values (h : Headers ν) (name : String) : List ν := groupValues name h.groups

/-- The first value of a name. -/
def first? (h : Headers ν) (name : String) : Option ν := (h.values name).head?

/-- Whether a name has a value. -/
def contains (h : Headers ν) (name : String) : Bool := !(h.values name).isEmpty

/-- The names in order of first appearance. -/
def names (h : Headers ν) : List String := h.groups.map (·.1)

/-- The fields, names in order of first appearance. -/
def toList (h : Headers ν) : List (String × ν) :=
  h.groups.flatMap fun g => g.2.map fun v => (g.1, v)

/-- Changes every value. -/
def map {μ : Type} (f : ν → μ) (h : Headers ν) : Headers μ :=
  ⟨h.groups.map fun g => (g.1, g.2.map f)⟩

theorem groupValues_updateGroups_self (name : String) (f : List ν → List ν)
    (groups : List (String × List ν)) :
    groupValues name (updateGroups name f groups) = f (groupValues name groups) := by
  induction groups with
  | nil => simp [updateGroups, groupValues]
  | cons g rest ih =>
    obtain ⟨n, vs⟩ := g
    by_cases h : n = name
    · simp [updateGroups, groupValues, h]
    · simp [updateGroups, groupValues, h, ih]

theorem groupValues_updateGroups_of_ne {name other : String} (hne : other ≠ name)
    (f : List ν → List ν) (groups : List (String × List ν)) :
    groupValues other (updateGroups name f groups) = groupValues other groups := by
  induction groups with
  | nil => simp [updateGroups, groupValues, Ne.symm hne]
  | cons g rest ih =>
    obtain ⟨n, vs⟩ := g
    by_cases h : n = name
    · subst h
      simp [updateGroups, groupValues, Ne.symm hne]
    · simp [updateGroups, groupValues, h, ih]

@[simp]
theorem values_empty (name : String) : (empty : Headers ν).values name = [] := rfl

@[simp]
theorem values_insert_self (h : Headers ν) (name : String) (value : ν) :
    (h.insert name value).values name = [value] :=
  groupValues_updateGroups_self name _ h.groups

theorem values_insert_of_ne (h : Headers ν) {name other : String} (hne : other ≠ name)
    (value : ν) : (h.insert name value).values other = h.values other :=
  groupValues_updateGroups_of_ne hne _ h.groups

end Headers

end CloudStub.Http
