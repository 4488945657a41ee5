/-!
# Dictionaries with text keys

A dictionary lists its entries in the order of their keys, each key once.  The order is part of
the type, so two dictionaries are equal as soon as they answer every look-up alike, and whatever
is written from a dictionary comes out in key order.

## Main Definitions

- `Entries.get?`, `Entries.update`: look-up and change on a plain list of entries
- `Dict.Behind`: entries whose keys increase strictly and are all behind a given one
- `Dict`: entries whose keys increase strictly
- `Dict.Behind.toList`, `Dict.Behind.ofSorted`: dictionaries and sorted lists of entries
- `Dict.update`, `Dict.insert`, `Dict.ofList`: the operations on dictionaries

## Main Statements

- `Dict.get?_update_self`, `Dict.get?_update_of_ne`: what a change does to look-ups
- `Dict.toList_ofList`: sorted pairs are the entries of their dictionary
- `Dict.get?_eq_some_iff`: look-ups find exactly the entries
- `Dict.mem_keys`, `Dict.nodup_keys`: the keys
- `Dict.mem_front_iff`, `Dict.mem_back_iff`: the entries before and behind another
- `Dict.ext_get?`: look-ups determine the dictionary

## Design Notes

The type of entries is a family over the key in front of them, and not a list with a proof that it
is sorted, so that trees may hold dictionaries of trees: a proof about the entries could not stand
in the type of the tree.  Such a tree has to name `Dict.Behind` itself.
-/

namespace CloudStub

variable {α : Type}

namespace Entries

/-- The value of a key, from the first entry with that key. -/
def get? (key : String) : List (String × α) → Option α
  | [] => none
  | (k, v) :: rest => if k = key then some v else get? key rest

/-- Replaces the value of a key, given its old value; a new key takes its place in key order. -/
def update (key : String) (f : Option α → α) : List (String × α) → List (String × α)
  | [] => [(key, f none)]
  | (k, v) :: rest =>
    if key < k then (key, f none) :: (k, v) :: rest
    else if k = key then (key, f (some v)) :: rest
    else (k, v) :: update key f rest

/-- The keys increase strictly. -/
def Sorted (entries : List (String × α)) : Prop :=
  entries.Pairwise fun a b => a.1 < b.1

theorem key_mem_update {key : String} {f : Option α → α} {entries : List (String × α)}
    {e : String × α} (h : e ∈ update key f entries) : e.1 = key ∨ e ∈ entries := by
  induction entries with
  | nil => simp_all [update]
  | cons hd rest ih =>
    obtain ⟨k, v⟩ := hd
    unfold update at h
    split at h
    · rcases List.mem_cons.1 h with rfl | h
      · exact .inl rfl
      · exact .inr h
    · split at h
      · rcases List.mem_cons.1 h with rfl | h
        · exact .inl rfl
        · exact .inr (List.mem_cons_of_mem _ h)
      · rcases List.mem_cons.1 h with rfl | h
        · exact .inr (List.mem_cons_self ..)
        · exact (ih h).imp_right (List.mem_cons_of_mem _)

theorem sorted_update {entries : List (String × α)} (h : Sorted entries) (key : String)
    (f : Option α → α) : Sorted (update key f entries) := by
  induction entries with
  | nil => simp [update, Sorted]
  | cons hd rest ih =>
    obtain ⟨k, v⟩ := hd
    have hrest : Sorted rest := (List.pairwise_cons.1 h).2
    have hk : ∀ e ∈ rest, k < e.1 := (List.pairwise_cons.1 h).1
    unfold update
    split
    · rename_i hlt
      refine List.pairwise_cons.2 ⟨fun e he => ?_, h⟩
      rcases List.mem_cons.1 he with rfl | he
      · exact hlt
      · exact String.lt_trans hlt (hk e he)
    · rename_i hlt
      split
      · rename_i heq
        subst heq
        exact List.pairwise_cons.2 ⟨hk, hrest⟩
      · rename_i hne
        refine List.pairwise_cons.2 ⟨fun e he => ?_, ih hrest⟩
        rcases key_mem_update he with heq | he
        · rw [heq]
          exact Decidable.byContradiction fun hn =>
            hne (String.le_antisymm (String.not_lt.1 hlt) (String.not_lt.1 hn))
        · exact hk e he

theorem get?_update_self (key : String) (f : Option α → α) {entries : List (String × α)}
    (h : Sorted entries) : get? key (update key f entries) = some (f (get? key entries)) := by
  induction entries with
  | nil => simp [update, get?]
  | cons hd rest ih =>
    obtain ⟨k, v⟩ := hd
    have hk : ∀ e ∈ rest, k < e.1 := (List.pairwise_cons.1 h).1
    unfold update
    split
    · rename_i hlt
      have hnone : get? key ((k, v) :: rest) = none := by
        have : ∀ e ∈ (k, v) :: rest, key < e.1 := by
          intro e he
          rcases List.mem_cons.1 he with rfl | he
          · exact hlt
          · exact String.lt_trans hlt (hk e he)
        clear ih hk h
        generalize (k, v) :: rest = es at this
        induction es with
        | nil => rfl
        | cons hd rest ih =>
          obtain ⟨k, v⟩ := hd
          have hne : k ≠ key := fun he =>
            String.lt_irrefl key (he ▸ this (k, v) (List.mem_cons_self ..))
          simp only [get?, hne, if_false]
          exact ih fun e he => this e (List.mem_cons_of_mem _ he)
      rw [hnone]
      simp [get?]
    · split
      · rename_i heq
        simp [get?, heq]
      · rename_i hne
        simp only [get?, hne, if_false]
        exact ih (List.pairwise_cons.1 h).2

theorem get?_update_of_ne {key other : String} (hne : other ≠ key) (f : Option α → α)
    (entries : List (String × α)) : get? other (update key f entries) = get? other entries := by
  induction entries with
  | nil => simp [update, get?, Ne.symm hne]
  | cons hd rest ih =>
    obtain ⟨k, v⟩ := hd
    unfold update
    split
    · simp [get?, Ne.symm hne]
    · split
      · rename_i heq
        subst heq
        simp [get?, Ne.symm hne]
      · simp only [get?, ih]

theorem get?_eq_none_of_lt {key : String} {entries : List (String × α)}
    (h : ∀ e ∈ entries, key < e.1) : get? key entries = none := by
  induction entries with
  | nil => rfl
  | cons hd rest ih =>
    obtain ⟨k, v⟩ := hd
    have hne : k ≠ key := fun he =>
      String.lt_irrefl key (he ▸ h (k, v) (List.mem_cons_self ..))
    simp only [get?, hne, if_false]
    exact ih fun e he => h e (List.mem_cons_of_mem _ he)

/-- In sorted entries a look-up finds exactly the entries. -/
theorem get?_eq_some_iff {key : String} {value : α} {entries : List (String × α)}
    (h : Sorted entries) : get? key entries = some value ↔ (key, value) ∈ entries := by
  induction entries with
  | nil => simp [get?]
  | cons hd rest ih =>
    obtain ⟨k, v⟩ := hd
    obtain ⟨hk, hrest⟩ := List.pairwise_cons.1 h
    by_cases heq : k = key
    · subst heq
      -- The key does not come again, so the first entry is the only one with it.
      have hnot : (k, value) ∉ rest := fun hmem => String.lt_irrefl k (hk _ hmem)
      simp [get?, hnot, eq_comm]
    · simp [get?, heq, Ne.symm heq, ih hrest]

/-- An entry whose key is behind all others takes the last place. -/
theorem update_of_lt {key : String} {f : Option α → α} {entries : List (String × α)}
    (h : ∀ e ∈ entries, e.1 < key) : update key f entries = entries ++ [(key, f none)] := by
  induction entries with
  | nil => rfl
  | cons e rest ih =>
    obtain ⟨k, v⟩ := e
    obtain ⟨hk, hrest⟩ := List.forall_mem_cons.1 h
    have hlt : ¬ key < k := fun hlt => String.lt_irrefl key (String.lt_trans hlt hk)
    have hne : k ≠ key := fun he => String.lt_irrefl key (he ▸ hk)
    rw [update, if_neg hlt, if_neg hne, ih hrest, List.cons_append]

theorem ext_get? {a b : List (String × α)} (ha : Sorted a) (hb : Sorted b)
    (h : ∀ key, get? key a = get? key b) : a = b := by
  induction a generalizing b with
  | nil =>
    cases b with
    | nil => rfl
    | cons hd rest => have := h hd.1; simp [get?] at this
  | cons x xs ih =>
    obtain ⟨k, v⟩ := x
    have hx := List.pairwise_cons.1 ha
    cases b with
    | nil => have := h k; simp [get?] at this
    | cons y ys =>
      obtain ⟨k', v'⟩ := y
      have hy := List.pairwise_cons.1 hb
      have hkk : k = k' := by
        refine Decidable.byContradiction fun hne => ?_
        by_cases hlt : k < k'
        · have h1 := h k
          have h2 : get? k ((k', v') :: ys) = none := get?_eq_none_of_lt fun e he => by
            rcases List.mem_cons.1 he with rfl | he
            · exact hlt
            · exact String.lt_trans hlt (hy.1 e he)
          rw [h2] at h1
          simp [get?] at h1
        · have hlt' : k' < k := Decidable.byContradiction fun hn =>
            hne (String.le_antisymm (String.not_lt.1 hn) (String.not_lt.1 hlt))
          have h1 := h k'
          have h2 : get? k' ((k, v) :: xs) = none := get?_eq_none_of_lt fun e he => by
            rcases List.mem_cons.1 he with rfl | he
            · exact hlt'
            · exact String.lt_trans hlt' (hx.1 e he)
          rw [h2] at h1
          simp [get?] at h1
      subst hkk
      have hv : v = v' := by have := h k; simpa [get?] using this
      subst hv
      congr 1
      refine ih hx.2 hy.2 fun key => ?_
      by_cases hk : k = key
      · subst hk
        rw [get?_eq_none_of_lt hx.1, get?_eq_none_of_lt hy.1]
      · have := h key
        simpa [get?, hk] using this

end Entries

/-- Entries in the order of their keys, each key once and all of them behind `start`. -/
inductive Dict.Behind (α : Type) : Option String → Type where
  /-- No entries. -/
  | nil {start : Option String} : Behind α start
  /-- An entry in front of others. -/
  | cons {start : Option String} (key : String) (value : α) (behind : ∀ k ∈ start, k < key)
    (rest : Behind α (some key)) : Behind α start

/-- A dictionary: entries in the order of their keys. -/
abbrev Dict (α : Type) : Type := Dict.Behind α none

namespace Dict

namespace Behind

variable {start : Option String}

instance : Inhabited (Behind α start) := ⟨nil⟩

instance : EmptyCollection (Behind α start) := ⟨nil⟩

/-- The entries, in key order. -/
def toList {start : Option String} : Behind α start → List (String × α)
  | nil => []
  | cons key value _ rest => (key, value) :: rest.toList

/-- All keys are behind the start. -/
theorem lt_of_mem {start : Option String} : (d : Behind α start) → ∀ k ∈ start,
    ∀ e ∈ d.toList, k < e.1
  | nil, _, _, _, he => absurd he List.not_mem_nil
  | cons _ _ behind rest, k, hk, e, he => by
    rcases List.mem_cons.1 he with rfl | he
    · exact behind k hk
    · exact String.lt_trans (behind k hk) (rest.lt_of_mem _ rfl e he)

/-- The keys increase strictly. -/
theorem sorted {start : Option String} : (d : Behind α start) → Entries.Sorted d.toList
  | nil => List.Pairwise.nil
  | cons _ _ _ rest => List.pairwise_cons.2 ⟨rest.lt_of_mem _ rfl, rest.sorted⟩

/-- Sorted entries that are all behind the start. -/
def ofSorted {start : Option String} : (entries : List (String × α)) → Entries.Sorted entries →
    (∀ k ∈ start, ∀ e ∈ entries, k < e.1) → Behind α start
  | [], _, _ => nil
  | (key, value) :: rest, hsorted, hstart =>
    cons key value (fun k hk => hstart k hk _ (List.mem_cons_self ..))
      (ofSorted rest (List.pairwise_cons.1 hsorted).2
        (fun _ hk => Option.some.inj hk ▸ (List.pairwise_cons.1 hsorted).1))

@[simp]
theorem toList_ofSorted {start : Option String} : (entries : List (String × α)) →
    (hsorted : Entries.Sorted entries) → (hstart : ∀ k ∈ start, ∀ e ∈ entries, k < e.1) →
    (ofSorted entries hsorted hstart).toList = entries
  | [], _, _ => rfl
  | _ :: rest, hsorted, _ =>
    congrArg _ (toList_ofSorted rest (List.pairwise_cons.1 hsorted).2 _)

theorem ext_toList {start : Option String} : {a b : Behind α start} → a.toList = b.toList → a = b
  | nil, nil, _ => rfl
  | nil, cons .., h => by cases h
  | cons .., nil, h => by cases h
  | cons _ _ _ _, cons _ _ _ _, h => by
    simp only [toList, List.cons.injEq, Prod.mk.injEq] at h
    obtain ⟨⟨rfl, rfl⟩, hrest⟩ := h
    rw [ext_toList hrest]

instance [DecidableEq α] : DecidableEq (Behind α start) := fun a b =>
  decidable_of_iff (a.toList = b.toList) ⟨ext_toList, fun h => h ▸ rfl⟩

/-- The value of a key. -/
def get? (d : Behind α start) (key : String) : Option α := Entries.get? key d.toList

/-- Whether there are no entries. -/
def isEmpty (d : Behind α start) : Bool := d.toList.isEmpty

end Behind

/-- The dictionary without entries. -/
def empty : Dict α := .nil

/-- Changes the value of a key, given its old value. -/
def update (d : Dict α) (key : String) (f : Option α → α) : Dict α :=
  .ofSorted (Entries.update key f d.toList) (Entries.sorted_update d.sorted key f) nofun

@[simp]
theorem toList_update (d : Dict α) (key : String) (f : Option α → α) :
    (d.update key f).toList = Entries.update key f d.toList :=
  Behind.toList_ofSorted ..

/-- Sets the value of a key. -/
def insert (d : Dict α) (key : String) (value : α) : Dict α := d.update key fun _ => value

/-- The dictionary of a list of pairs; of several values for one key the last counts. -/
def ofList (pairs : List (String × α)) : Dict α :=
  pairs.foldl (fun d kv => d.insert kv.1 kv.2) empty

/-- Adds a value behind the values that a key already has. -/
def push (d : Dict (List α)) (key : String) (value : α) : Dict (List α) :=
  d.update key fun old => old.getD [] ++ [value]

@[simp]
theorem get?_empty (key : String) : (empty : Dict α).get? key = none := rfl

@[simp]
theorem get?_update_self (d : Dict α) (key : String) (f : Option α → α) :
    (d.update key f).get? key = some (f (d.get? key)) := by
  rw [Behind.get?, toList_update]
  exact Entries.get?_update_self key f d.sorted

theorem get?_update_of_ne (d : Dict α) {key other : String} (hne : other ≠ key)
    (f : Option α → α) : (d.update key f).get? other = d.get? other := by
  rw [Behind.get?, toList_update]
  exact Entries.get?_update_of_ne hne f d.toList

/-- Sorted pairs are the entries of their dictionary. -/
theorem toList_ofList {pairs : List (String × α)} (h : Entries.Sorted pairs) :
    (ofList pairs).toList = pairs := by
  have hfold : ∀ (rest : List (String × α)) (d : Dict α), Entries.Sorted (d.toList ++ rest) →
      (rest.foldl (fun d kv => d.insert kv.1 kv.2) d).toList = d.toList ++ rest := by
    intro rest
    induction rest with
    | nil => exact fun d _ => (List.append_nil _).symm
    | cons e rest ih =>
      intro d hsorted
      have hfront : ∀ e' ∈ d.toList, e'.1 < e.1 := fun e' he' =>
        (List.pairwise_append.1 hsorted).2.2 e' he' e (List.mem_cons_self ..)
      have hinsert : (d.insert e.1 e.2).toList = d.toList ++ [e] := by
        rw [insert, toList_update, Entries.update_of_lt hfront]
      have hsplit : d.toList ++ e :: rest = (d.insert e.1 e.2).toList ++ rest := by
        rw [hinsert, List.append_assoc, List.singleton_append]
      rw [List.foldl_cons, hsplit]
      exact ih _ (hsplit ▸ hsorted)
  exact hfold pairs empty h

theorem get?_push_self (d : Dict (List α)) (key : String) (value : α) :
    (d.push key value).get? key = some ((d.get? key).getD [] ++ [value]) :=
  get?_update_self d key _

theorem get?_push_of_ne (d : Dict (List α)) {key other : String} (hne : other ≠ key)
    (value : α) : (d.push key value).get? other = d.get? other :=
  get?_update_of_ne d hne _

theorem get?_eq_some_iff (d : Dict α) {key : String} {value : α} :
    d.get? key = some value ↔ (key, value) ∈ d.toList :=
  Entries.get?_eq_some_iff d.sorted

theorem mem_keys (d : Dict α) {key : String} :
    key ∈ d.toList.map Prod.fst ↔ (d.get? key).isSome = true := by
  constructor
  · intro hmem
    obtain ⟨⟨k, value⟩, hentry, rfl⟩ := List.mem_map.1 hmem
    exact Option.isSome_iff_exists.2 ⟨value, d.get?_eq_some_iff.2 hentry⟩
  · intro hsome
    obtain ⟨value, hvalue⟩ := Option.isSome_iff_exists.1 hsome
    exact List.mem_map_of_mem (d.get?_eq_some_iff.1 hvalue)

/-- No key comes twice. -/
theorem nodup_keys (d : Dict α) : (d.toList.map Prod.fst).Nodup := by
  refine List.pairwise_map.2 (d.sorted.imp fun {a b} h => ?_)
  intro heq
  rw [heq] at h
  exact String.lt_irrefl _ h

/-- The entries in front of another are those with smaller keys. -/
theorem mem_front_iff {d : Dict α} {front back : List (String × α)} {e : String × α}
    (h : d.toList = front ++ e :: back) (c : String × α) :
    c ∈ front ↔ c ∈ d.toList ∧ c.1 < e.1 := by
  have hsorted := d.sorted
  rw [h] at hsorted ⊢
  obtain ⟨-, hback, hbetween⟩ := List.pairwise_append.1 hsorted
  constructor
  · intro hc
    exact ⟨List.mem_append_left _ hc, hbetween c hc e (List.mem_cons_self ..)⟩
  · rintro ⟨hc, hlt⟩
    rcases List.mem_append.1 hc with hc | hc
    · exact hc
    rcases List.mem_cons.1 hc with rfl | hc
    · exact absurd hlt (String.lt_irrefl _)
    · exact absurd (String.lt_trans hlt ((List.pairwise_cons.1 hback).1 c hc)) (String.lt_irrefl _)

/-- The entries behind another are those with larger keys. -/
theorem mem_back_iff {d : Dict α} {front back : List (String × α)} {e : String × α}
    (h : d.toList = front ++ e :: back) (c : String × α) :
    c ∈ back ↔ c ∈ d.toList ∧ e.1 < c.1 := by
  have hsorted := d.sorted
  rw [h] at hsorted ⊢
  obtain ⟨-, hback, hbetween⟩ := List.pairwise_append.1 hsorted
  constructor
  · intro hc
    exact ⟨List.mem_append_right _ (List.mem_cons_of_mem _ hc), (List.pairwise_cons.1 hback).1 c hc⟩
  · rintro ⟨hc, hlt⟩
    rcases List.mem_append.1 hc with hc | hc
    · have hfront := hbetween c hc e (List.mem_cons_self ..)
      exact absurd (String.lt_trans hlt hfront) (String.lt_irrefl _)
    rcases List.mem_cons.1 hc with rfl | hc
    · exact absurd hlt (String.lt_irrefl _)
    · exact hc

theorem ext_get? {a b : Dict α} (h : ∀ key, a.get? key = b.get? key) : a = b :=
  Behind.ext_toList (Entries.ext_get? a.sorted b.sorted h)

end Dict

end CloudStub
