import CloudStub.Http.Headers

/-!
# Header sections with one value for each name

A section that is made by replacements alone, never by additions, has each of its names once and
with one value.  It is then the graph of its look-up: a field stands in it exactly when the look-up
of its name finds its value.

## Main Definitions

- `Headers.IsSingle`: every name stands once, with one value

## Main Statements

- `Headers.IsSingle.insert`: a replacement keeps a section so
- `Headers.IsSingle.mem_toList`: the fields of such a section are what the look-up finds
- `Headers.first?_foldl_insert`: of several replacements of a name the last one counts
-/

namespace CloudStub.Http.Headers

variable {ν : Type}

/-- Every name stands once, with one value. -/
structure IsSingle (h : Headers ν) : Prop where
  /-- No name stands twice. -/
  nodup : h.names.Nodup
  /-- Each name has one value. -/
  single : ∀ g ∈ h.groups, ∃ value, g.2 = [value]

/-! ### Replacements keep names apart -/

/-- A name that is there keeps its place, a new one comes last. -/
theorem map_fst_updateGroups (name : String) (f : List ν → List ν)
    (groups : List (String × List ν)) :
    (updateGroups name f groups).map Prod.fst =
      if name ∈ groups.map Prod.fst then groups.map Prod.fst
      else groups.map Prod.fst ++ [name] := by
  induction groups with
  | nil => rfl
  | cons g rest ih =>
    obtain ⟨n, vs⟩ := g
    by_cases hn : n = name
    · simp [updateGroups, hn]
    · rw [updateGroups, if_neg hn, List.map_cons, ih]
      simp only [List.map_cons, List.mem_cons, Ne.symm hn, false_or]
      split <;> rfl

theorem nodup_updateGroups {groups : List (String × List ν)} (h : (groups.map Prod.fst).Nodup)
    (name : String) (f : List ν → List ν) :
    ((updateGroups name f groups).map Prod.fst).Nodup := by
  rw [map_fst_updateGroups]
  split
  · exact h
  · rename_i hnew
    refine List.nodup_append.2 ⟨h, List.pairwise_singleton _ name, ?_⟩
    rintro other hother last hlast rfl
    exact hnew (List.mem_singleton.1 hlast ▸ hother)

theorem mem_updateGroups {name : String} {f : List ν → List ν} {groups : List (String × List ν)}
    {g : String × List ν} (h : g ∈ updateGroups name f groups) :
    g ∈ groups ∨ ∃ vs, g = (name, f vs) := by
  induction groups with
  | nil => exact .inr ⟨[], List.mem_singleton.1 h⟩
  | cons first rest ih =>
    obtain ⟨n, vs⟩ := first
    rw [updateGroups] at h
    split at h
    · rename_i hn
      subst hn
      rcases List.mem_cons.1 h with rfl | hrest
      · exact .inr ⟨vs, rfl⟩
      · exact .inl (List.mem_cons_of_mem _ hrest)
    · rcases List.mem_cons.1 h with rfl | hrest
      · exact .inl (List.mem_cons_self ..)
      · exact (ih hrest).imp_left (List.mem_cons_of_mem _)

theorem isSingle_empty : (empty : Headers ν).IsSingle := ⟨List.nodup_nil, by simp [empty]⟩

theorem IsSingle.insert {h : Headers ν} (hsingle : h.IsSingle) (name : String) (value : ν) :
    (h.insert name value).IsSingle where
  nodup := nodup_updateGroups hsingle.nodup name _
  single g hg := by
    rcases mem_updateGroups hg with hold | ⟨vs, rfl⟩
    · exact hsingle.single g hold
    · exact ⟨value, rfl⟩

theorem IsSingle.foldl_insert {h : Headers ν} (hsingle : h.IsSingle) (fields : List (String × ν)) :
    (fields.foldl (fun h f => h.insert f.1 f.2) h).IsSingle := by
  induction fields generalizing h with
  | nil => exact hsingle
  | cons f rest ih => exact ih (hsingle.insert f.1 f.2)

/-! ### Fields and look-up -/

theorem contains_eq_isSome (h : Headers ν) (name : String) :
    h.contains name = (h.first? name).isSome := by
  rw [contains, first?]
  cases h.values name <;> rfl

theorem groupValues_of_notMem {name : String} {groups : List (String × List ν)}
    (h : name ∉ groups.map Prod.fst) : groupValues name groups = [] := by
  induction groups with
  | nil => rfl
  | cons g rest ih =>
    obtain ⟨hne, hrest⟩ := List.ne_and_not_mem_of_not_mem_cons h
    rw [groupValues, if_neg (Ne.symm hne), ih hrest]

theorem mem_groups_of_groupValues {name : String} {groups : List (String × List ν)} :
    groupValues name groups = [] ∨ (name, groupValues name groups) ∈ groups := by
  induction groups with
  | nil => exact .inl rfl
  | cons g rest ih =>
    obtain ⟨n, vs⟩ := g
    rw [groupValues]
    split
    · rename_i heq
      subst heq
      exact .inr (List.mem_cons_self ..)
    · exact ih.imp_right (List.mem_cons_of_mem _)

/-- When no name stands twice, its values are all that is there under the name. -/
theorem mem_toList_iff_mem_values {h : Headers ν} (hnodup : h.names.Nodup) (name : String)
    (value : ν) : (name, value) ∈ h.toList ↔ value ∈ h.values name := by
  obtain ⟨groups⟩ := h
  induction groups with
  | nil => exact iff_of_false List.not_mem_nil List.not_mem_nil
  | cons g rest ih =>
    obtain ⟨n, vs⟩ := g
    obtain ⟨hn, hrest⟩ := List.nodup_cons.1 hnodup
    have hlater : (name, value) ∈ toList ⟨rest⟩ ↔ value ∈ groupValues name rest := ih hrest
    show (name, value) ∈ vs.map (fun v => (n, v)) ++ toList ⟨rest⟩ ↔
      value ∈ if n = name then vs else groupValues name rest
    rw [List.mem_append, hlater]
    split
    · rename_i heq
      subst heq
      rw [groupValues_of_notMem hn]
      simp
    · rename_i hne
      simp [hne]

/-- The fields are what the look-up finds. -/
theorem IsSingle.mem_toList {h : Headers ν} (hsingle : h.IsSingle) (name : String) (value : ν) :
    (name, value) ∈ h.toList ↔ h.first? name = some value := by
  have hvalues : h.values name = [] ∨ ∃ v, h.values name = [v] :=
    mem_groups_of_groupValues.imp_right fun hmem => hsingle.single _ hmem
  rw [mem_toList_iff_mem_values hsingle.nodup, first?]
  rcases hvalues with hnil | ⟨v, hone⟩
  · simp [hnil]
  · simp [hone, eq_comm]

theorem IsSingle.map_fst_toList {h : Headers ν} (hsingle : h.IsSingle) :
    h.toList.map Prod.fst = h.names := by
  obtain ⟨groups⟩ := h
  obtain ⟨-, hgroups⟩ := hsingle
  induction groups with
  | nil => rfl
  | cons g rest ih =>
    obtain ⟨n, vs⟩ := g
    obtain ⟨⟨value, rfl⟩, hrest⟩ := List.forall_mem_cons.1 hgroups
    exact congrArg (n :: ·) (ih hrest)

theorem first?_insert (h : Headers ν) (name other : String) (value : ν) :
    (h.insert name value).first? other = if name = other then some value else h.first? other := by
  split
  · rename_i heq
    subst heq
    rw [first?, values_insert_self]
    rfl
  · rename_i hne
    rw [first?, values_insert_of_ne _ (Ne.symm hne)]
    rfl

theorem lookup_cons_eq_ite (name : String) (field : String × ν) (rest : List (String × ν)) :
    (field :: rest).lookup name = if field.1 = name then some field.2 else rest.lookup name := by
  split
  · rename_i heq
    rw [List.lookup_cons, heq, beq_self_eq_true]
  · rename_i hne
    rw [List.lookup_cons, beq_false_of_ne (Ne.symm hne)]

/-- Of several replacements of a name the last one counts. -/
theorem first?_foldl_insert (fields : List (String × ν)) (h : Headers ν) (name : String) :
    (fields.foldl (fun h f => h.insert f.1 f.2) h).first? name =
      (fields.reverse.lookup name).or (h.first? name) := by
  induction fields generalizing h with
  | nil => rfl
  | cons f rest ih =>
    rw [List.foldl_cons, ih, first?_insert, List.reverse_cons, List.lookup_append, Option.or_assoc,
      lookup_cons_eq_ite]
    congr 1
    split <;> rfl

end CloudStub.Http.Headers
