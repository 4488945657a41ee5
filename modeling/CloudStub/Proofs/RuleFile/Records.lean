import CloudStub.RuleFile.Document
import Mathlib.Data.List.Forall2

/-!
# Parts of a record

A record is read field by field.  What the part under one name establishes stays, since no other
part is read into that field: a name does not come twice, and an array has one place for each field.

## Main Definitions

- `Schema.HasPart`: the part of a record that is written under a name
- `Schema.SetBy`: what the part under a name establishes and no other part changes

## Main Statements

- `Schema.readMembers_cons`, `Schema.readValues_cons`: one more part
- `Schema.SetBy.of_readMembers`, `Schema.SetBy.of_readValues`: all parts, in either form
- `Schema.SetBy.of_read`: reading a record establishes what one part does
- `Reader.list_getElem?`: an item of a list is read by itself
- `mapM_eq_ok_iff`, `mapM_eq_error_iff`: what a step for each item of a list yields
-/

namespace CloudStub

/-! ### Steps that may fail -/

section Steps

variable {ε α β : Type}

theorem bind_eq_ok_iff {x : Except ε α} {f : α → Except ε β} {b : β} :
    x >>= f = .ok b ↔ ∃ a, x = .ok a ∧ f a = .ok b := by
  cases x <;> simp [bind, Except.bind]

theorem bind_eq_error_iff {x : Except ε α} {f : α → Except ε β} {e : ε} :
    x >>= f = .error e ↔ x = .error e ∨ ∃ a, x = .ok a ∧ f a = .error e := by
  cases x <;> simp [bind, Except.bind]

/-- When two steps in a row succeed, so does the first. -/
theorem exists_of_bind_eq_ok {x : Except ε α} {f : α → Except ε β} {b : β}
    (h : x >>= f = .ok b) : ∃ a, x = .ok a ∧ f a = .ok b := bind_eq_ok_iff.1 h

theorem exists_of_map_eq_ok {x : Except ε α} {f : α → β} {b : β}
    (h : x.map f = .ok b) : ∃ a, x = .ok a ∧ f a = b := by
  cases x with
  | error e => cases h
  | ok a => exact ⟨a, rfl, Except.ok.inj h⟩

/-- A step for each item succeeds on all items or not at all. -/
theorem mapM_eq_ok_iff {f : α → Except ε β} {as : List α} {bs : List β} :
    as.mapM f = .ok bs ↔ List.Forall₂ (fun a b => f a = .ok b) as bs := by
  induction as generalizing bs with
  | nil => cases bs <;> simp [pure, Except.pure]
  | cons a rest ih =>
    rw [List.mapM_cons, bind_eq_ok_iff, List.forall₂_cons_left_iff]
    refine exists_congr fun b => ?_
    rw [bind_eq_ok_iff]
    simp only [ih, pure, Except.pure, Except.ok.injEq, eq_comm (b := bs)]
    constructor
    · rintro ⟨hb, more, hmore, rfl⟩
      exact ⟨more, hb, hmore, rfl⟩
    · rintro ⟨more, hb, hmore, rfl⟩
      exact ⟨hb, more, hmore, rfl⟩

/-- A step for each item fails at the first item for which it does. -/
theorem mapM_eq_error_iff {f : α → Except ε β} {as : List α} {e : ε} :
    as.mapM f = .error e ↔ ∃ front a back, as = front ++ a :: back ∧
      (∀ c ∈ front, ∃ b, f c = .ok b) ∧ f a = .error e := by
  induction as with
  | nil => simp [pure, Except.pure]
  | cons a rest ih =>
    rw [List.mapM_cons, bind_eq_error_iff]
    simp only [bind_eq_error_iff, ih]
    constructor
    · rintro (h | ⟨b, hb, ⟨front, c, back, rfl, hfront, hc⟩ | ⟨more, -, hpure⟩⟩)
      · exact ⟨[], a, rest, rfl, by simp, h⟩
      · exact ⟨a :: front, c, back, rfl, List.forall_mem_cons.2 ⟨⟨b, hb⟩, hfront⟩, hc⟩
      · cases hpure
    · rintro ⟨front, c, back, hsplit, hfront, hc⟩
      cases front with
      | nil =>
        obtain ⟨rfl, rfl⟩ := List.cons.inj hsplit
        exact .inl hc
      | cons d front =>
        obtain ⟨rfl, rfl⟩ := List.cons.inj hsplit
        obtain ⟨⟨b, hb⟩, hfront⟩ := List.forall_mem_cons.1 hfront
        exact .inr ⟨b, hb, .inl ⟨front, c, back, rfl, hfront, hc⟩⟩

/-- A list can be related item by item when each item can. -/
theorem exists_forall₂_iff {R : α → β → Prop} {as : List α} :
    (∃ bs, List.Forall₂ R as bs) ↔ ∀ a ∈ as, ∃ b, R a b := by
  induction as with
  | nil => simp
  | cons a rest ih =>
    simp only [List.forall₂_cons_left_iff, List.forall_mem_cons, ← ih]
    constructor
    · rintro ⟨_, b, bs, hb, hbs, rfl⟩
      exact ⟨⟨b, hb⟩, bs, hbs⟩
    · rintro ⟨⟨b, hb⟩, bs, hbs⟩
      exact ⟨_, b, bs, hb, hbs, rfl⟩

theorem getElem?_of_forall₂ {R : α → β → Prop} {as : List α} {bs : List β}
    (h : List.Forall₂ R as bs) {i : Nat} {a : α} (ha : as[i]? = some a) :
    ∃ b, bs[i]? = some b ∧ R a b := by
  induction h generalizing i with
  | nil => cases ha
  | cons hfirst hrest ih =>
    cases i with
    | zero =>
      obtain rfl := Option.some.inj ha
      exact ⟨_, rfl, hfirst⟩
    | succ i => exact ih ha

end Steps

/-! ### Lists -/

namespace Reader

variable {α : Type}

theorem closing_eq_ok {closed : Bool} {a b : α} (h : closing closed a = .ok b) :
    closed = true ∧ a = b := by
  cases closed with
  | false => cases h
  | true => exact ⟨rfl, Except.ok.inj h⟩

/-- An item of a list is read by itself. -/
theorem list_getElem? {read : Reader α} {items : List Outline} {closed : Bool} {as : List α}
    (h : Reader.list read (.arr items closed) = .ok as) {i : Nat} {o : Outline}
    (ho : items[i]? = some o) : ∃ a, as[i]? = some a ∧ read o = .ok a := by
  obtain ⟨as', hitems, hclosing⟩ := exists_of_bind_eq_ok h
  obtain ⟨-, rfl⟩ := closing_eq_ok hclosing
  exact getElem?_of_forall₂ (mapM_eq_ok_iff.1 hitems) ho

end Reader

/-! ### Records -/

namespace Schema

variable {σ : Type} {s : Schema σ}

/-- The part of a record that is written under a name: a member of an object, or the item of an
array in the place of that field. -/
inductive HasPart (s : Schema σ) (name : String) (part : Outline) : Outline → Prop where
  /-- A member of an object. -/
  | member {members : List (String × Outline)} {closed : Bool} (h : (name, part) ∈ members) :
    HasPart s name part (.obj members closed)
  /-- An item of an array. -/
  | item {items : List Outline} {closed : Bool} {i : Nat} (hname : s.fieldNames[i]? = some name)
    (h : items[i]? = some part) : HasPart s name part (.arr items closed)

/-- What the part under a name establishes and no other part changes. -/
structure SetBy (s : Schema σ) (name : String) (part : Outline) (P : σ → Prop) : Prop where
  /-- No two fields have one name. -/
  nodup : s.fieldNames.Nodup
  /-- Reading the part establishes it. -/
  own : ∀ f ∈ s.fields, f.name = name → ∀ r r', f.read part r = .ok r' → P r'
  /-- Reading under another name keeps it. -/
  others : ∀ f ∈ s.fields, f.name ≠ name → ∀ o r r', f.read o r = .ok r' → P r → P r'

theorem readMembers_cons {seen : List String} {r : σ} {name : String} {o : Outline}
    {rest : List (String × Outline)} {result : List String × σ}
    (h : s.readMembers seen r ((name, o) :: rest) = .ok result) :
    ∃ f ∈ s.fields, f.name = name ∧ name ∉ seen ∧
      ∃ r', f.read o r = .ok r' ∧ s.readMembers (name :: seen) r' rest = .ok result := by
  rw [readMembers] at h
  split at h
  · cases h
  · rename_i f hfind
    have hname : f.name = name := by simpa using List.find?_some hfind
    split at h
    · cases h
    · rename_i hseen
      exact ⟨f, List.mem_of_find?_eq_some hfind, hname, by simpa using hseen,
        exists_of_bind_eq_ok h⟩

theorem readValues_cons {closed : Bool} {i : Nat} {r r' : σ} {f : Field σ}
    {fields : List (Field σ)} {o : Outline} {items : List Outline}
    (h : s.readValues closed i r (f :: fields) (o :: items) = .ok r') :
    ∃ r₁, f.read o r = .ok r₁ ∧ s.readValues closed (i + 1) r₁ fields items = .ok r' := by
  rw [readValues] at h
  exact exists_of_bind_eq_ok h

namespace SetBy

variable {name : String} {part : Outline} {P : σ → Prop}

/-- Behind the part nothing under its name follows. -/
theorem readMembers_kept (hset : s.SetBy name part P) {members : List (String × Outline)}
    {seen : List String} {r : σ} {result : List String × σ}
    (h : s.readMembers seen r members = .ok result) (hseen : name ∈ seen) (hr : P r) :
    P result.2 := by
  induction members generalizing seen r with
  | nil =>
    obtain rfl := Except.ok.inj h
    exact hr
  | cons m rest ih =>
    obtain ⟨other, o⟩ := m
    obtain ⟨f, hf, hname, hnew, r', hread, hrest⟩ := readMembers_cons h
    have hne : f.name ≠ name := fun heq => hnew (hname.symm.trans heq ▸ hseen)
    exact ih hrest (List.mem_cons_of_mem _ hseen) (hset.others f hf hne o r r' hread hr)

theorem of_readMembers (hset : s.SetBy name part P) {members : List (String × Outline)}
    {seen : List String} {r : σ} {result : List String × σ}
    (h : s.readMembers seen r members = .ok result) (hmem : (name, part) ∈ members) :
    P result.2 := by
  induction members generalizing seen r with
  | nil => cases hmem
  | cons m rest ih =>
    obtain ⟨other, o⟩ := m
    obtain ⟨f, hf, hname, -, r', hread, hrest⟩ := readMembers_cons h
    rcases List.mem_cons.1 hmem with heq | hmem
    · obtain ⟨rfl, rfl⟩ := Prod.mk.inj heq
      exact hset.readMembers_kept hrest (List.mem_cons_self ..) (hset.own f hf hname r r' hread)
    · exact ih hrest hmem

theorem readValues_kept (hset : s.SetBy name part P) {closed : Bool} {fields : List (Field σ)}
    (hfields : ∀ f ∈ fields, f ∈ s.fields ∧ f.name ≠ name) {i : Nat} {r r' : σ}
    {items : List Outline} (h : s.readValues closed i r fields items = .ok r') (hr : P r) :
    P r' := by
  induction fields generalizing i r items with
  | nil =>
    rw [readValues] at h
    exact (Reader.closing_eq_ok h).2 ▸ hr
  | cons f rest ih =>
    obtain ⟨hf, hrest⟩ := List.forall_mem_cons.1 hfields
    cases items with
    | nil =>
      rw [readValues] at h
      split at h
      · cases h
      · split at h
        · exact ih hrest h hr
        · cases h
    | cons o items =>
      obtain ⟨r₁, hread, hmore⟩ := readValues_cons h
      exact ih hrest hmore (hset.others f hf.1 hf.2 o r r₁ hread hr)

theorem of_readValues (hset : s.SetBy name part P) {closed : Bool} {fields : List (Field σ)}
    (hfields : ∀ f ∈ fields, f ∈ s.fields) (hnodup : (fields.map Field.name).Nodup)
    {i k : Nat} {r r' : σ} {items : List Outline}
    (h : s.readValues closed i r fields items = .ok r')
    (hname : (fields.map Field.name)[k]? = some name) (hpart : items[k]? = some part) :
    P r' := by
  induction fields generalizing i k r items with
  | nil => simp at hname
  | cons f rest ih =>
    obtain ⟨hf, hrest⟩ := List.forall_mem_cons.1 hfields
    rw [List.map_cons, List.nodup_cons] at hnodup
    cases items with
    | nil => simp at hpart
    | cons o items =>
      obtain ⟨r₁, hread, hmore⟩ := readValues_cons h
      cases k with
      | zero =>
        obtain rfl := Option.some.inj hpart
        have hown : f.name = name := by simpa using hname
        -- The fields that follow have other names.
        refine hset.readValues_kept (fun g hg => ⟨hrest g hg, fun heq => hnodup.1 ?_⟩) hmore
          (hset.own f hf hown r r₁ hread)
        rw [hown, ← heq]
        exact List.mem_map_of_mem hg
      | succ k => exact ih hrest hnodup.2 hmore (by simpa using hname) (by simpa using hpart)

/-- Reading a record establishes what one of its parts does. -/
theorem of_read (hset : s.SetBy name part P) {o : Outline} (hpart : s.HasPart name part o) {r : σ}
    (h : s.read o = .ok r) : P r := by
  cases hpart with
  | @member members closed hmem =>
    rw [Schema.read] at h
    obtain ⟨result, hmembers, h⟩ := exists_of_bind_eq_ok h
    obtain ⟨r', hclosing, h⟩ := exists_of_bind_eq_ok h
    obtain ⟨-, rfl⟩ := Reader.closing_eq_ok hclosing
    have hP : P result.2 := hset.of_readMembers hmembers hmem
    split at h
    · cases h
    · exact Except.ok.inj h ▸ hP
  | item hname hitem =>
    rw [Schema.read] at h
    exact hset.of_readValues (fun f hf => hf) hset.nodup h hname hitem

end SetBy

/-- A record of which one part is written. -/
theorem read_single {name : String} {o : Outline} {f : Field σ} {r : σ}
    (hfind : s.fields.find? (fun f => f.name == name) = some f)
    (hread : f.read o s.start = .ok r) (hmissing : s.missing? [name] = none) :
    s.read (.obj [(name, o)] true) = .ok r := by
  have hmembers : s.readMembers [] s.start [(name, o)] = .ok ([name], r) := by
    rw [readMembers, hfind]
    simp only [List.contains_nil, Bool.false_eq_true, if_false, hread]
    rfl
  rw [Schema.read, hmembers]
  simp [bind, Except.bind, Reader.closing, hmissing]

/-- A record of a text is read from the value at its front. -/
theorem read_of_parse {text : String} {r : σ} (h : s.parse text = .ok r) :
    s.read (Outline.ofText text).1 = .ok r := by
  unfold parse at h
  cases htext : Outline.ofText text with
  | mk outline rest =>
    rw [htext] at h
    obtain ⟨r', hread, hrest⟩ := exists_of_bind_eq_ok h
    cases rest with
    | none => cases hrest
    | some rest =>
      obtain ⟨-, rfl⟩ := Reader.closing_eq_ok hrest
      exact hread

end Schema

end CloudStub
