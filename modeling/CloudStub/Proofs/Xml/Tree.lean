import CloudStub.Proofs.Xml.Markup
import Mathlib.Data.List.TakeWhile

/-!
# Document trees

The tree that a structured value stands for: keys become child elements, an array under a key
repeats the element of that key, an array without a key of its own becomes `member` children, keys
with a leading `-` become attributes and the key `#text` becomes text.  The tree does not say how
an element is written: a null and an object without members both stand for an element without
attributes, text and children.

## Main Definitions

- `Json.asText`: the text that a value stands for
- `Json.IsChildKey`: the keys of child elements
- `Tree`: an element with its attributes, its text and its children
- `Tree.ofValue`: the tree of a value
- `Tree.trimmed`: the tree without spaces and line ends around texts
- `Tree.outline`: the tree without its texts and the values of its attributes
- `Tree.inner`: the texts inside an element
- `Markup.tree`: the tree of a written element
- `Json.blanked`: a value with its strings emptied

## Main Statements

- `Writer.plainText_eq_asText`, `Writer.isChild_iff`, `Markup.attributesOf_toList`: what the writer
  finds in a value
- `Markup.tree_ofValue`: the element written for a value has the tree of the value
- `Tree.outline_ofValue_blanked`: the outline of the tree does not depend on strings in the value

## Design Notes

The tree of a value shares nothing with the writer but the text of JSON values.
-/

namespace CloudStub

/-! ## Keys and texts -/

/-- The keys that stand for child elements: neither that of an attribute nor that of a text. -/
def Json.IsChildKey (key : String) : Prop := key.toList.head? ≠ some '-' ∧ key ≠ "#text"

instance : DecidablePred Json.IsChildKey := fun key =>
  inferInstanceAs (Decidable (key.toList.head? ≠ some '-' ∧ key ≠ "#text"))

/-- The text that a value stands for where no elements can stand: null stands for nothing, a string
for itself, and any other value for its compact JSON text. -/
def Json.asText : Json → String
  | .null => ""
  | .bool false => "false"
  | .bool true => "true"
  | .num n => n.text
  | .str s => s
  | .arr items => (Json.arr items).text
  | .obj members => (Json.obj members).text

namespace Xml

/-- An element with its attributes, its text and its child elements. -/
inductive Tree where
  /-- An element. -/
  | element (name : String) (attributes : List (String × String)) (text : String)
      (children : List Tree)
  deriving Inhabited, Repr

namespace Tree

/-- The attributes of an object in key order: its keys that begin with a `-`, without it. -/
def attributesOf (members : Dict Json) : List (String × String) :=
  (members.toList.filter fun kv => kv.1.toList.head? = some '-').map fun kv =>
    (String.ofList kv.1.toList.tail, kv.2.asText)

/-- The text of an object. -/
def textOf (members : Dict Json) : String :=
  match members.get? "#text" with
  | some v => v.asText
  | none => ""

mutual

/-- The tree of a value. -/
def ofValue (name : String) : Json → Tree
  | .null => .element name [] "" []
  | .bool b => .element name [] (Json.asText (.bool b)) []
  | .num n => .element name [] (Json.asText (.num n)) []
  | .str s => .element name [] s []
  | .arr items => .element name [] "" (ofItems "member" items)
  | .obj members => .element name (attributesOf members) (textOf members) (ofMembers members)

/-- The trees of several values of one name. -/
def ofItems (name : String) : List Json → List Tree
  | [] => []
  | v :: rest => ofValue name v :: ofItems name rest

/-- The child elements of an object, in key order. -/
def ofMembers {start : Option String} : Dict.Behind Json start → List Tree
  | .nil => []
  | .cons key v _ rest =>
    if Json.IsChildKey key then
      (match v with
        | .arr items => ofItems key items
        | v => [ofValue key v]) ++ ofMembers rest
    else ofMembers rest

end

/-! ## Texts up to blanks around them -/

/-- Spaces and line ends. -/
def isLayout (c : Char) : Bool := c == ' ' || c == '\n'

/-- A text without the spaces and line ends around it. -/
def trim (cs : List Char) : List Char :=
  ((cs.dropWhile isLayout).reverse.dropWhile isLayout).reverse

theorem trim_append_left {blanks : List Char} (h : ∀ c ∈ blanks, isLayout c = true)
    (cs : List Char) : trim (blanks ++ cs) = trim cs := by
  rw [trim, List.dropWhile_append_of_pos h, trim]

theorem trim_eq_nil {blanks : List Char} (h : ∀ c ∈ blanks, isLayout c = true) :
    trim blanks = [] := by
  simpa [trim] using trim_append_left h []

theorem trim_append_right {blanks : List Char} (h : ∀ c ∈ blanks, isLayout c = true)
    (cs : List Char) : trim (cs ++ blanks) = trim cs := by
  by_cases hcs : ∀ c ∈ cs, isLayout c = true
  · rw [trim_append_left hcs, trim_eq_nil h, trim_eq_nil hcs]
  · -- A character that stays ends the part that is dropped from the front.
    have hne : cs.dropWhile isLayout ≠ [] := by
      simpa [List.dropWhile_eq_nil_iff] using hcs
    have hr : ∀ c ∈ blanks.reverse, isLayout c = true := fun c hc => h c (List.mem_reverse.1 hc)
    rw [trim, trim, List.dropWhile_append, if_neg (by simpa using hne), List.reverse_append,
      List.dropWhile_append_of_pos hr]

mutual

/-- The tree without spaces and line ends around texts. -/
def trimmed : Tree → Tree
  | .element name attributes text children =>
    .element name attributes (String.ofList (trim text.toList)) (allTrimmed children)

/-- The trees without spaces and line ends around texts. -/
def allTrimmed : List Tree → List Tree
  | [] => []
  | t :: rest => trimmed t :: allTrimmed rest

end

/-! ## Trees without texts -/

mutual

/-- The tree without its texts and without the values of its attributes: the elements, how they are
nested, and the names of their attributes. -/
def outline : Tree → Tree
  | .element name attributes _ children =>
    .element name (attributes.map fun a => (a.1, "")) "" (allOutline children)

/-- The trees without texts. -/
def allOutline : List Tree → List Tree
  | [] => []
  | t :: rest => outline t :: allOutline rest

end

theorem allOutline_append (a b : List Tree) :
    allOutline (a ++ b) = allOutline a ++ allOutline b := by
  induction a with
  | nil => rfl
  | cons t rest ih => rw [List.cons_append, allOutline, allOutline, ih, List.cons_append]

mutual

theorem outline_trimmed : (t : Tree) → t.trimmed.outline = t.outline
  | .element _ _ _ children => by
    rw [trimmed, outline, outline, allOutline_allTrimmed children]

theorem allOutline_allTrimmed : (ts : List Tree) → allOutline (allTrimmed ts) = allOutline ts
  | [] => rfl
  | t :: rest => by
    rw [allTrimmed, allOutline, allOutline, outline_trimmed t, allOutline_allTrimmed rest]

end

/-! ## Legal names -/

mutual

/-- Whether every element and every attribute has a legal name. -/
def legal : Tree → Bool
  | .element name attributes _ children =>
    isName name && Markup.legalAttributes attributes && allLegal children

/-- Whether every name in every tree of a list is legal. -/
def allLegal : List Tree → Bool
  | [] => true
  | t :: rest => legal t && allLegal rest

end

mutual

theorem legal_outline : (t : Tree) → t.outline.legal = t.legal
  | .element _ attributes _ children => by
    have hattributes : Markup.legalAttributes (attributes.map fun a => (a.1, "")) =
        Markup.legalAttributes attributes := by
      simp [Markup.legalAttributes, Function.comp_def]
    rw [outline, legal, legal, hattributes, allLegal_allOutline children]

theorem allLegal_allOutline : (ts : List Tree) → allLegal (allOutline ts) = allLegal ts
  | [] => rfl
  | t :: rest => by
    rw [allOutline, allLegal, allLegal, legal_outline t, allLegal_allOutline rest]

end

/-! ## Texts inside an element -/

mutual

/-- The names of the elements and attributes inside an element, and the values of its attributes
and its texts: everything but its own name. -/
def inner : Tree → List String
  | .element _ attributes text children =>
    (attributes.flatMap fun a => [a.1, a.2]) ++ text :: allInner children

/-- The names of several elements and everything inside them. -/
def allInner : List Tree → List String
  | [] => []
  | .element name attributes text children :: rest =>
    name :: (inner (.element name attributes text children) ++ allInner rest)

end

end Tree

namespace Markup

mutual

/-- The tree of a written element. -/
def tree : Markup → Tree
  | .empty name attributes => .element name attributes "" []
  | .text name attributes body => .element name attributes body []
  | .block name attributes own children =>
    .element name attributes (own.getD "") (allTrees children)

/-- The trees of several written elements. -/
def allTrees : List Markup → List Tree
  | [] => []
  | m :: rest => tree m :: allTrees rest

end

theorem allTrees_append (a b : List Markup) : allTrees (a ++ b) = allTrees a ++ allTrees b := by
  induction a with
  | nil => rfl
  | cons m rest ih => simp [allTrees, ih]

mutual

theorem legal_tree : (m : Markup) → m.tree.legal = m.legal
  | .empty _ _ => by simp [tree, legal, Tree.legal, Tree.allLegal]
  | .text _ _ _ => by simp [tree, legal, Tree.legal, Tree.allLegal]
  | .block _ _ _ children => by rw [tree, legal, Tree.legal, allLegal_allTrees children]

theorem allLegal_allTrees : (ms : List Markup) → Tree.allLegal (allTrees ms) = allLegal ms
  | [] => rfl
  | m :: rest => by
    rw [allTrees, allLegal, Tree.allLegal, legal_tree m, allLegal_allTrees rest]

end

end Markup

/-! ## The tree that is written

The writer looks at a key and at a text in its own way.  What it finds there is what the tree of
the value says. -/

namespace Writer

theorem plainText_eq_asText : (v : Json) → plainText v = v.asText
  | .null => rfl
  | .bool false => rfl
  | .bool true => rfl
  | .num _ => rfl
  | .str _ => rfl
  | .arr _ => rfl
  | .obj _ => rfl

theorem attributeName?_eq (key : String) :
    attributeName? key =
      if key.toList.head? = some '-' then some (String.ofList key.toList.tail) else none := by
  unfold attributeName?
  cases key.toList with
  | nil => rfl
  | cons c rest => by_cases hc : c = '-' <;> simp [hc]

theorem isChild_iff (key : String) : isChild key = true ↔ Json.IsChildKey key := by
  rw [isChild, attributeName?_eq, Bool.and_eq_true, bne_iff_ne, Json.IsChildKey]
  split <;> simp_all [textKey]

theorem ownText?_getD (members : Dict Json) :
    (ownText? members.toList).getD "" = Tree.textOf members := by
  rw [ownText?, Tree.textOf, Dict.Behind.get?, textKey]
  cases Entries.get? "#text" members.toList with
  | none => rfl
  | some v => exact plainText_eq_asText v

end Writer

namespace Markup

theorem attributesOf_toList (members : Dict Json) :
    attributesOf members.toList = Tree.attributesOf members := by
  unfold attributesOf Tree.attributesOf
  induction members.toList with
  | nil => rfl
  | cons kv rest ih =>
    rw [List.filterMap_cons, List.filter_cons, ih, Writer.attributeName?_eq,
      Writer.plainText_eq_asText]
    by_cases hkey : kv.1.toList.head? = some '-' <;> simp [hkey]

theorem ofMembers_of_not_hasChild {start : Option String} : {members : Dict.Behind Json start} →
    Writer.hasChild members.toList = false → Tree.ofMembers members = []
  | .nil, _ => rfl
  | .cons key v _ rest, h => by
    simp only [Writer.hasChild, Dict.Behind.toList, List.any_cons, Bool.or_eq_false_iff] at h
    unfold Tree.ofMembers
    rw [if_neg (by simp [← Writer.isChild_iff, h.1])]
    exact ofMembers_of_not_hasChild h.2

mutual

/-- The element that is written for a value has the tree of the value. -/
theorem tree_ofValue (name : String) : (v : Json) → (ofValue name v).tree = Tree.ofValue name v
  | .null => rfl
  | .obj members => by
    have hmembers := allTrees_ofMembers members
    unfold ofValue Tree.ofValue
    rw [attributesOf_toList, ← Writer.ownText?_getD]
    cases hchild : Writer.hasChild members.toList with
    | true => simp [tree, hmembers]
    | false =>
      rw [ofMembers_of_not_hasChild hchild]
      cases Writer.ownText? members.toList <;> simp [tree]
  | .arr items => by
    have hitems := allTrees_ofItems itemName items
    rw [ofValue, tree, hitems]
    rfl
  | .bool b => by rw [ofValue, tree, Tree.ofValue, Writer.plainText_eq_asText]
  | .num n => by rw [ofValue, tree, Tree.ofValue, Writer.plainText_eq_asText]
  | .str _ => rfl

theorem allTrees_ofItems (name : String) :
    (items : List Json) → allTrees (ofItems name items) = Tree.ofItems name items
  | [] => rfl
  | v :: rest => by
    rw [ofItems, allTrees, Tree.ofItems, tree_ofValue name v, allTrees_ofItems name rest]

theorem allTrees_ofMembers {start : Option String} : (members : Dict.Behind Json start) →
    allTrees (ofMembers members) = Tree.ofMembers members
  | .nil => rfl
  | .cons key v _ rest => by
    have hrest := allTrees_ofMembers rest
    have hvalue := tree_ofValue key v
    unfold ofMembers Tree.ofMembers
    simp only [Writer.isChild_iff]
    split
    · rw [allTrees_append, hrest]
      cases v with
      | arr items => rw [allTrees_ofItems key items]
      | _ => simp [allTrees, hvalue]
    · exact hrest

end

end Markup

end Xml

/-! ## Values without strings -/

mutual

/-- The value with each string in it emptied.  Keys stay. -/
def Json.blanked : Json → Json
  | .null => .null
  | .bool b => .bool b
  | .num n => .num n
  | .str _ => .str ""
  | .arr items => .arr (Json.allBlanked items)
  | .obj members => .obj (Json.blankedMembers members)

/-- The values with each string emptied. -/
def Json.allBlanked : List Json → List Json
  | [] => []
  | v :: rest => v.blanked :: Json.allBlanked rest

/-- The members with each string in their values emptied. -/
def Json.blankedMembers {start : Option String} :
    Dict.Behind Json start → Dict.Behind Json start
  | .nil => .nil
  | .cons key v behind rest => .cons key v.blanked behind (Json.blankedMembers rest)

end

theorem Json.toList_blankedMembers {start : Option String} : (members : Dict.Behind Json start) →
    (Json.blankedMembers members).toList = members.toList.map fun kv => (kv.1, kv.2.blanked)
  | .nil => rfl
  | .cons key v _ rest => by
    rw [Json.blankedMembers, Dict.Behind.toList, Dict.Behind.toList,
      Json.toList_blankedMembers rest, List.map_cons]

namespace Xml.Tree

theorem attributesOf_blankedMembers (members : Dict Json) :
    (attributesOf (Json.blankedMembers members)).map (fun a => (a.1, "")) =
      (attributesOf members).map fun a => (a.1, "") := by
  unfold attributesOf
  rw [Json.toList_blankedMembers, List.filter_map, List.map_map, List.map_map, List.map_map]
  rfl

mutual

/-- The outline of the tree of a value does not depend on the strings of the value. -/
theorem outline_ofValue_blanked (name : String) : (v : Json) →
    (ofValue name v.blanked).outline = (ofValue name v).outline
  | .null => rfl
  | .bool _ => rfl
  | .num _ => rfl
  | .str _ => rfl
  | .arr items => by
    rw [Json.blanked, ofValue, ofValue, outline, outline, allOutline_ofItems_blanked "member" items]
  | .obj members => by
    rw [Json.blanked, ofValue, ofValue, outline, outline, attributesOf_blankedMembers,
      allOutline_ofMembers_blanked members]

theorem allOutline_ofItems_blanked (name : String) : (items : List Json) →
    allOutline (ofItems name (Json.allBlanked items)) = allOutline (ofItems name items)
  | [] => rfl
  | v :: rest => by
    rw [Json.allBlanked, ofItems, ofItems, allOutline, allOutline, outline_ofValue_blanked name v,
      allOutline_ofItems_blanked name rest]

theorem allOutline_ofMembers_blanked {start : Option String} :
    (members : Dict.Behind Json start) →
    allOutline (ofMembers (Json.blankedMembers members)) = allOutline (ofMembers members)
  | .nil => rfl
  | .cons key v _ rest => by
    have hrest := allOutline_ofMembers_blanked rest
    have hvalue := outline_ofValue_blanked key v
    rw [Json.blankedMembers]
    unfold ofMembers
    split
    · rw [allOutline_append, allOutline_append, hrest]
      cases v with
      | arr items => rw [Json.blanked, allOutline_ofItems_blanked key items]
      | obj _ =>
        rw [Json.blanked] at hvalue ⊢
        simp only [allOutline, hvalue]
      | _ => rfl
    · exact hrest

end

end Xml.Tree

end CloudStub
