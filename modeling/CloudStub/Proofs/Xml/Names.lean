import CloudStub.Proofs.Xml.Tree

/-!
# The names that a value gives rise to

Keys become names of elements and attributes, but not all of them do.  The key of an empty array
labels nothing, and nothing inside the value of an attribute or of a text becomes a name.  This
module says which names a value gives rise to, without regard to how it is written, and shows that
writing succeeds exactly when these names are legal and fails with one of them otherwise.

## Main Definitions

- `Json.spread`: the values that stand under a key
- `Named`: the names inside the element of a value
- `Blames`: the names that the errors of a step carry

## Main Statements

- `Tree.legal_ofValue_iff`: the tree of a value is legal when all these names are
- `Tree.children_ofValue`: children come in the order of their names
- `Writer.root_blames`: the errors of writing a value carry one of these names

## Design Notes

`Writes` says when a step fails, and `Blames` says with what; neither looks at how much was written
before the failure.
-/

namespace CloudStub

/-- The values that stand under a key: an array stands for its items. -/
def Json.spread : Json → List Json
  | .arr items => items
  | v => [v]

namespace Xml

/-- The names inside the element of a value, its own name left aside. -/
inductive Named : Json → String → Prop where
  /-- A key with a leading `-` names an attribute. -/
  | attributeKey {members : Dict Json} {name : String} {v : Json}
    (h : ("-" ++ name, v) ∈ members.toList) : Named (.obj members) name
  /-- A key of child elements names each of them. -/
  | childKey {members : Dict Json} {key : String} {v w : Json}
    (h : (key, v) ∈ members.toList) (hkey : Json.IsChildKey key) (hw : w ∈ v.spread) :
    Named (.obj members) key
  /-- The names inside a child element. -/
  | insideChild {members : Dict Json} {key name : String} {v w : Json}
    (h : (key, v) ∈ members.toList) (hkey : Json.IsChildKey key) (hw : w ∈ v.spread)
    (hname : Named w name) : Named (.obj members) name
  /-- An item of an array without a key. -/
  | arrayItem {items : List Json} {v : Json} (h : v ∈ items) : Named (.arr items) "member"
  /-- The names inside such an item. -/
  | insideItem {items : List Json} {v : Json} {name : String} (h : v ∈ items)
    (hname : Named v name) : Named (.arr items) name

theorem named_obj_iff {members : Dict Json} {name : String} :
    Named (.obj members) name ↔ (∃ v, ("-" ++ name, v) ∈ members.toList) ∨
      ∃ key v, (key, v) ∈ members.toList ∧ Json.IsChildKey key ∧
        ∃ w ∈ v.spread, name = key ∨ Named w name := by
  constructor
  · intro h
    cases h with
    | attributeKey h => exact Or.inl ⟨_, h⟩
    | childKey h hkey hw => exact Or.inr ⟨_, _, h, hkey, _, hw, Or.inl rfl⟩
    | insideChild h hkey hw hname => exact Or.inr ⟨_, _, h, hkey, _, hw, Or.inr hname⟩
  · rintro (⟨v, h⟩ | ⟨key, v, h, hkey, w, hw, rfl | hname⟩)
    · exact .attributeKey h
    · exact .childKey h hkey hw
    · exact .insideChild h hkey hw hname

theorem named_arr_iff {items : List Json} {name : String} :
    Named (.arr items) name ↔ ∃ v ∈ items, name = "member" ∨ Named v name := by
  constructor
  · intro h
    cases h with
    | arrayItem h => exact ⟨_, h, Or.inl rfl⟩
    | insideItem h hname => exact ⟨_, h, Or.inr hname⟩
  · rintro ⟨v, h, rfl | hname⟩
    · exact .arrayItem h
    · exact .insideItem h hname

/-! ### Legal trees -/

namespace Tree

/-- A key with a leading `-` is that in front of a name. -/
theorem head?_eq_dash_iff {key : String} :
    key.toList.head? = some '-' ↔ key = "-" ++ String.ofList key.toList.tail := by
  rw [← String.toList_inj, String.toList_append, String.toList_ofList]
  cases key.toList with
  | nil => simp
  | cons c rest => simp

theorem legalAttributes_attributesOf_iff (members : Dict Json) :
    Markup.legalAttributes (attributesOf members) = true ↔
      ∀ name v, ("-" ++ name, v) ∈ members.toList → isName name = true := by
  simp only [Markup.legalAttributes, attributesOf, List.all_map, List.all_eq_true,
    List.mem_filter, decide_eq_true_eq, and_imp, Function.comp_apply]
  constructor
  · intro h name v hmem
    have hname := h ("-" ++ name, v) hmem (by simp)
    simpa using hname
  · rintro h ⟨key, v⟩ hmem hkey
    have hdash : key = "-" ++ String.ofList key.toList.tail := head?_eq_dash_iff.1 hkey
    rw [hdash] at hmem
    exact h _ v hmem

section Members

variable {start : Option String} {key : String} {v : Json} {behind : ∀ k ∈ start, k < key}
  {rest : Dict.Behind Json (some key)}

/-- The children under a key are the elements of the values that stand there. -/
theorem ofMembers_cons_of_isChildKey (h : Json.IsChildKey key) :
    ofMembers (.cons key v behind rest) = ofItems key v.spread ++ ofMembers rest := by
  cases v <;> simp [ofMembers, h, ofItems, Json.spread]

theorem ofMembers_cons_of_not_isChildKey (h : ¬ Json.IsChildKey key) :
    ofMembers (.cons key v behind rest) = ofMembers rest := by
  cases v <;> simp [ofMembers, h]

end Members

theorem allLegal_append (a b : List Tree) : allLegal (a ++ b) = (allLegal a && allLegal b) := by
  induction a with
  | nil => rfl
  | cons t rest ih => rw [List.cons_append, allLegal, allLegal, ih, Bool.and_assoc]

/-- An element that holds a text alone. -/
theorem legal_leaf_iff {v : Json} (name text : String) (h : ∀ n, ¬ Named v n) :
    (element name [] text []).legal = true ↔
      isName name = true ∧ ∀ n, Named v n → isName n = true := by
  simp [legal, allLegal, Markup.legalAttributes, h]

mutual

/-- The tree of a value is legal when its own name and all names inside are. -/
theorem legal_ofValue_iff (name : String) : (v : Json) →
    ((ofValue name v).legal = true ↔ isName name = true ∧ ∀ n, Named v n → isName n = true)
  | .null => legal_leaf_iff name "" nofun
  | .obj members => by
    rw [ofValue, legal, Bool.and_eq_true, Bool.and_eq_true, legalAttributes_attributesOf_iff,
      allLegal_ofMembers_iff members, and_assoc]
    refine and_congr_right fun _ => ?_
    simp only [named_obj_iff]
    constructor
    · rintro ⟨hattributes, hchildren⟩ n (⟨v, h⟩ | ⟨key, v, h, hkey, w, hw, rfl | hn⟩)
      · exact hattributes n v h
      · exact (hchildren n v h hkey w hw).1
      · exact (hchildren key v h hkey w hw).2 n hn
    · intro h
      exact ⟨fun n v hmem => h n (Or.inl ⟨v, hmem⟩), fun key v hmem hkey w hw =>
        ⟨h key (Or.inr ⟨key, v, hmem, hkey, w, hw, Or.inl rfl⟩),
          fun n hn => h n (Or.inr ⟨key, v, hmem, hkey, w, hw, Or.inr hn⟩)⟩⟩
  | .arr items => by
    have hitem : isName "member" = true := by decide +kernel
    rw [ofValue, legal, Bool.and_eq_true, Bool.and_eq_true, allLegal_ofItems_iff "member" items,
      and_assoc]
    refine and_congr_right fun _ => ?_
    simp only [named_arr_iff]
    constructor
    · rintro ⟨-, hitems⟩ n ⟨v, hv, rfl | hn⟩
      · exact hitem
      · exact (hitems v hv).2 n hn
    · intro h
      exact ⟨rfl, fun v hv => ⟨hitem, fun n hn => h n ⟨v, hv, Or.inr hn⟩⟩⟩
  | .bool b => legal_leaf_iff name (Json.asText (.bool b)) nofun
  | .num i => legal_leaf_iff name (Json.asText (.num i)) nofun
  | .str s => legal_leaf_iff name s nofun

theorem allLegal_ofItems_iff (name : String) : (items : List Json) →
    (allLegal (ofItems name items) = true ↔
      ∀ w ∈ items, isName name = true ∧ ∀ n, Named w n → isName n = true)
  | [] => by simp [ofItems, allLegal]
  | v :: rest => by
    rw [ofItems, allLegal, Bool.and_eq_true, legal_ofValue_iff name v,
      allLegal_ofItems_iff name rest, List.forall_mem_cons]

theorem allLegal_ofMembers_iff {start : Option String} : (members : Dict.Behind Json start) →
    (allLegal (ofMembers members) = true ↔
      ∀ key v, (key, v) ∈ members.toList → Json.IsChildKey key → ∀ w ∈ v.spread,
        isName key = true ∧ ∀ n, Named w n → isName n = true)
  | .nil => by simp [ofMembers, allLegal, Dict.Behind.toList]
  | .cons key v _ rest => by
    have hrest := allLegal_ofMembers_iff rest
    have hvalue : allLegal (ofItems key v.spread) = true ↔
        ∀ w ∈ v.spread, isName key = true ∧ ∀ n, Named w n → isName n = true := by
      have hsingle := legal_ofValue_iff key v
      cases v with
      | arr items => exact allLegal_ofItems_iff key items
      | _ => simpa [Json.spread, ofItems, allLegal] using hsingle
    rw [Dict.Behind.toList]
    by_cases hkey : Json.IsChildKey key
    · rw [ofMembers_cons_of_isChildKey hkey, allLegal_append, Bool.and_eq_true, hvalue, hrest]
      constructor
      · rintro ⟨hv, hr⟩ k u hmem hk
        rcases List.mem_cons.1 hmem with heq | hmem
        · obtain ⟨rfl, rfl⟩ := Prod.mk.inj heq
          exact hv
        · exact hr k u hmem hk
      · exact fun h => ⟨h key v (List.mem_cons_self ..) hkey,
          fun k u hmem => h k u (List.mem_cons_of_mem _ hmem)⟩
    · rw [ofMembers_cons_of_not_isChildKey hkey, hrest]
      constructor
      · intro h k u hmem hk
        rcases List.mem_cons.1 hmem with heq | hmem
        · obtain ⟨rfl, -⟩ := Prod.mk.inj heq
          exact absurd hk hkey
        · exact h k u hmem hk
      · exact fun h k u hmem => h k u (List.mem_cons_of_mem _ hmem)

end

/-! ### Children in order -/

/-- The name of an element. -/
def name : Tree → String
  | .element name _ _ _ => name

/-- The child elements of an element. -/
def children : Tree → List Tree
  | .element _ _ _ children => children

@[simp]
theorem name_ofValue (n : String) (v : Json) : (ofValue n v).name = n := by
  cases v <;> rfl

theorem children_outline (t : Tree) : t.outline.children = allOutline t.children := by
  cases t with
  | element name attributes text children => rfl

theorem allOutline_eq_map (ts : List Tree) : allOutline ts = ts.map outline := by
  induction ts with
  | nil => rfl
  | cons t rest ih => rw [allOutline, List.map_cons, ih]

theorem name_outline (t : Tree) : t.outline.name = t.name := by
  cases t with
  | element n attributes text children => rfl

theorem ofItems_eq_map (n : String) (items : List Json) :
    ofItems n items = items.map (ofValue n) := by
  induction items with
  | nil => rfl
  | cons v rest ih => rw [ofItems, List.map_cons, ih]

theorem mem_ofItems {n : String} {items : List Json} {t : Tree} (h : t ∈ ofItems n items) :
    ∃ v ∈ items, t = ofValue n v := by
  rw [ofItems_eq_map] at h
  obtain ⟨v, hv, rfl⟩ := List.mem_map.1 h
  exact ⟨v, hv, rfl⟩

theorem mem_ofMembers {start : Option String} {t : Tree} : {members : Dict.Behind Json start} →
    t ∈ ofMembers members →
      ∃ key v w, (key, v) ∈ members.toList ∧ w ∈ v.spread ∧ t = ofValue key w
  | .nil, h => nomatch h
  | .cons key v _ rest, h => by
    have hrest : t ∈ ofMembers rest →
        ∃ k u w, (k, u) ∈ (key, v) :: rest.toList ∧ w ∈ u.spread ∧ t = ofValue k w := by
      intro h
      obtain ⟨k, u, w, hmem, hw, ht⟩ := mem_ofMembers h
      exact ⟨k, u, w, List.mem_cons_of_mem _ hmem, hw, ht⟩
    by_cases hkey : Json.IsChildKey key
    · rw [ofMembers_cons_of_isChildKey hkey, List.mem_append] at h
      rcases h with h | h
      · obtain ⟨w, hw, ht⟩ := mem_ofItems h
        exact ⟨key, v, w, List.mem_cons_self .., hw, ht⟩
      · exact hrest h
    · exact hrest (ofMembers_cons_of_not_isChildKey hkey ▸ h)

theorem pairwise_ofItems (n : String) (items : List Json) :
    (ofItems n items).Pairwise fun a b => a.name ≤ b.name := by
  rw [ofItems_eq_map, List.pairwise_map]
  refine List.pairwise_of_forall fun v w => ?_
  have hsame : (ofValue n v).name = (ofValue n w).name := by
    rw [name_ofValue, name_ofValue]
  exact hsame ▸ String.le_refl _

/-- The children of an object come in key order. -/
theorem pairwise_ofMembers {start : Option String} : (members : Dict.Behind Json start) →
    (ofMembers members).Pairwise fun a b => a.name ≤ b.name
  | .nil => List.Pairwise.nil
  | .cons key v _ rest => by
    by_cases hkey : Json.IsChildKey key
    · rw [ofMembers_cons_of_isChildKey hkey, List.pairwise_append]
      refine ⟨pairwise_ofItems key v.spread, pairwise_ofMembers rest, fun a ha b hb => ?_⟩
      obtain ⟨w, -, rfl⟩ := mem_ofItems ha
      obtain ⟨k, u, x, hmem, -, rfl⟩ := mem_ofMembers hb
      rw [name_ofValue, name_ofValue]
      exact String.not_lt.1 (String.lt_asymm (rest.lt_of_mem key rfl (k, u) hmem))
    · rw [ofMembers_cons_of_not_isChildKey hkey]
      exact pairwise_ofMembers rest

/-- The children of an element come in the order of their names, and each is the element of a value
again. -/
theorem children_ofValue (n : String) (v : Json) :
    (ofValue n v).children.Pairwise (fun a b => a.name ≤ b.name) ∧
      ∀ t ∈ (ofValue n v).children, ∃ key w, t = ofValue key w := by
  cases v with
  | arr items =>
    refine ⟨pairwise_ofItems "member" items, fun t ht => ?_⟩
    obtain ⟨w, -, rfl⟩ := mem_ofItems ht
    exact ⟨"member", w, rfl⟩
  | obj members =>
    refine ⟨pairwise_ofMembers members, fun t ht => ?_⟩
    obtain ⟨key, u, w, -, -, rfl⟩ := mem_ofMembers ht
    exact ⟨key, w, rfl⟩
  | _ => exact ⟨List.Pairwise.nil, fun t ht => nomatch ht⟩

end Tree

/-! ### What errors name -/

/-- The errors of a step carry illegal names, and only ones that satisfy a condition. -/
def Blames {α : Type} (step : Write α) (P : String → Prop) : Prop :=
  ∀ w e w', step.run w = .error e w' → isName e.name = false ∧ P e.name

namespace Blames

variable {α β : Type} {P Q : String → Prop}

theorem mono {step : Write α} (h : Blames step P) (hPQ : ∀ n, P n → Q n) : Blames step Q :=
  fun w e w' he => (h w e w' he).imp_right (hPQ _)

theorem pure (a : α) : Blames (Pure.pure a) P :=
  fun _ _ _ he => nomatch he

theorem modify (f : Writer → Writer) : Blames (modify f : Write Unit) P :=
  fun _ _ _ he => nomatch he

theorem check {name : String} (h : P name) : Blames (Writer.check name) P := by
  intro w e w' he
  unfold Writer.check at he
  split at he
  · cases he
  · rename_i hname
    cases he
    exact ⟨by simpa using hname, h⟩

/-- Of two steps the first one that fails gives the error. -/
theorem bind {a : Write α} {f : α → Write β} (ha : Blames a P) (hf : ∀ x, Blames (f x) P) :
    Blames (a >>= f) P := by
  intro w e w' he
  rw [EStateM.run_bind] at he
  cases hrun : a.run w with
  | ok x w'' =>
    rw [hrun] at he
    exact hf x w'' e w' he
  | error e' w'' =>
    rw [hrun] at he
    cases he
    exact ha w e w' hrun

/-- What goes for a step goes for what it writes from the start. -/
theorem text_error {step : Write Unit} (h : Blames step P) {e : InvalidName}
    (he : step.text = .error e) : isName e.name = false ∧ P e.name := by
  unfold Write.text at he
  cases hrun : step.run Writer.empty with
  | ok _ w =>
    rw [hrun] at he
    cases he
  | error e' w =>
    rw [hrun] at he
    cases he
    exact h _ _ _ hrun

end Blames

namespace Writer

variable {P : String → Prop}

theorem line_blames (content : String) : Blames (line content) P := Blames.modify _

theorem nest_blames (f : Nat → Nat) : Blames (nest f) P := Blames.modify _

theorem openTag_blames {name : String} (h : P name) : Blames (openTag name) P :=
  (Blames.check h).bind fun _ => (line_blames _).bind fun _ => nest_blames _

theorem closeTag_blames (name : String) : Blames (closeTag name) P :=
  (nest_blames _).bind fun _ => line_blames _

theorem textElement_blames {name : String} (h : P name) (text : String) :
    Blames (textElement name text) P :=
  (Blames.check h).bind fun _ => line_blames _

theorem eq_of_attributeName? {key name : String} (h : attributeName? key = some name) :
    key = "-" ++ name := by
  rw [attributeName?_eq] at h
  split at h
  · rename_i hdash
    obtain rfl := Option.some.inj h
    exact Tree.head?_eq_dash_iff.1 hdash
  · cases h

theorem attributes_blames (members : List (String × Json)) :
    Blames (attributes members) fun n => ∃ v, ("-" ++ n, v) ∈ members := by
  induction members with
  | nil => exact Blames.pure _
  | cons kv rest ih =>
    obtain ⟨key, v⟩ := kv
    have hrest : Blames (attributes rest) fun n => ∃ u, ("-" ++ n, u) ∈ (key, v) :: rest :=
      ih.mono fun n ⟨u, hu⟩ => ⟨u, List.mem_cons_of_mem _ hu⟩
    unfold attributes
    cases hkey : attributeName? key with
    | none => exact hrest
    | some name =>
      have hmem : ∃ u, ("-" ++ name, u) ∈ (key, v) :: rest :=
        ⟨v, eq_of_attributeName? hkey ▸ List.mem_cons_self ..⟩
      exact (Blames.check hmem).bind fun _ => hrest.bind fun _ => Blames.pure _

theorem childless_blames (name attrs : String) (text : Option String) :
    Blames (childless name attrs text) P := by
  cases text with
  | none => exact line_blames _
  | some text => exact line_blames _

theorem ownLine_blames (own : Option String) : Blames (ownLine own) P := by
  cases own with
  | none => exact Blames.pure _
  | some text => exact line_blames _

section Members

variable {start : Option String} {key : String} {v : Json} {behind : ∀ k ∈ start, k < key}
  {rest : Dict.Behind Json (some key)}

theorem children_cons_of_not_isChild (h : isChild key = false) :
    childrenWith closeTag (.cons key v behind rest) = childrenWith closeTag rest := by
  cases v <;> simp [childrenWith, h]

/-- The values under a key are written as elements of that name. -/
theorem children_cons_of_isChild (h : isChild key = true) :
    childrenWith closeTag (.cons key v behind rest) =
      (do elementsWith closeTag key v.spread; childrenWith closeTag rest) := by
  cases v <;> simp [childrenWith, h, elementsWith, Json.spread]

end Members

mutual

/-- The errors of writing a value carry its own name or one that the value gives rise to. -/
theorem single_blames (name : String) : (v : Json) →
    Blames (single name v) fun n => n = name ∨ Named v n
  | .null => (Blames.check (Or.inl rfl)).bind fun _ => line_blames _
  | .obj members => by
    have hattributes : Blames (attributes members.toList) fun n =>
        n = name ∨ Named (.obj members) n :=
      (attributes_blames members.toList).mono fun n ⟨v, hv⟩ => Or.inr (.attributeKey hv)
    have hchildren : Blames (childrenWith closeTag members) fun n =>
        n = name ∨ Named (.obj members) n :=
      (children_blames members).mono fun n hn => Or.inr (named_obj_iff.2 (Or.inr hn))
    unfold single singleWith
    refine (Blames.check (Or.inl rfl)).bind fun _ => hattributes.bind fun attrs => ?_
    split
    · exact (line_blames _).bind fun _ => (nest_blames _).bind fun _ =>
        (ownLine_blames _).bind fun _ => hchildren.bind fun _ => closeTag_blames _
    · exact childless_blames _ _ _
  | .arr items => by
    have hitems : Blames (elementsWith closeTag itemName items) fun n =>
        n = name ∨ Named (.arr items) n :=
      (elements_blames itemName items).mono fun n hn => Or.inr (named_arr_iff.2 hn)
    unfold single singleWith
    exact (Blames.check (Or.inl rfl)).bind fun _ => (openTag_blames (Or.inl rfl)).bind fun _ =>
      hitems.bind fun _ => closeTag_blames _
  | .bool _ => textElement_blames (Or.inl rfl) _
  | .num _ => textElement_blames (Or.inl rfl) _
  | .str _ => textElement_blames (Or.inl rfl) _

theorem elements_blames (name : String) : (items : List Json) →
    Blames (elementsWith closeTag name items) fun n => ∃ v ∈ items, n = name ∨ Named v n
  | [] => Blames.pure _
  | v :: rest =>
    ((single_blames name v).mono fun _ hn => ⟨v, List.mem_cons_self .., hn⟩).bind fun _ =>
      (elements_blames name rest).mono fun _ ⟨u, hu, hn⟩ => ⟨u, List.mem_cons_of_mem _ hu, hn⟩

theorem children_blames {start : Option String} : (members : Dict.Behind Json start) →
    Blames (childrenWith closeTag members) fun n => ∃ key v, (key, v) ∈ members.toList ∧
      Json.IsChildKey key ∧ ∃ w ∈ v.spread, n = key ∨ Named w n
  | .nil => Blames.pure _
  | .cons key v _ rest => by
    have hrest : Blames (childrenWith closeTag rest) fun n =>
        ∃ k u, (k, u) ∈ (key, v) :: rest.toList ∧ Json.IsChildKey k ∧
          ∃ w ∈ u.spread, n = k ∨ Named w n :=
      (children_blames rest).mono fun n ⟨k, u, hmem, hn⟩ =>
        ⟨k, u, List.mem_cons_of_mem _ hmem, hn⟩
    have hvalue : Blames (elementsWith closeTag key v.spread) fun n =>
        ∃ w ∈ v.spread, n = key ∨ Named w n := by
      have hsingle := single_blames key v
      cases v with
      | arr items => exact elements_blames key items
      | _ =>
        exact (hsingle.mono fun n hn => ⟨_, List.mem_singleton_self _, hn⟩).bind fun _ =>
          Blames.pure _
    cases hchild : isChild key with
    | false =>
      rw [children_cons_of_not_isChild hchild]
      exact hrest
    | true =>
      rw [children_cons_of_isChild hchild]
      exact (hvalue.mono fun n hn =>
        ⟨key, v, List.mem_cons_self .., (isChild_iff key).1 hchild, hn⟩).bind fun _ => hrest

end

/-- So do the errors of writing a root element. -/
theorem root_blames (name : String) (v : Json) :
    Blames (root name v) fun n => n = name ∨ Named v n := by
  cases v with
  | arr items =>
    have hitems : Blames (elementsWith closeTag itemName items) fun n =>
        n = name ∨ Named (.arr items) n :=
      (elements_blames itemName items).mono fun n hn => Or.inr (named_arr_iff.2 hn)
    exact (openTag_blames (Or.inl rfl)).bind fun _ => hitems.bind fun _ => closeTag_blames _
  | _ => exact single_blames name _

end Writer

end Xml

end CloudStub
