import CloudStub.Xml.Writer

/-!
# Written elements

`Writer.single` interleaves three things: checking names, deciding which of three shapes an element
takes, and printing.  This module takes them apart.  A value first becomes a `Markup`, a tree in
which the shapes are constructors; `Markup.legal` says whether all its names are legal, and
`Markup.lines` lists the lines in which it is written.

## Main Definitions

- `Markup`: an element as it is written
- `Markup.ofValue`: the element of a value
- `Markup.legal`: whether every name is legal
- `Line`, `Markup.lines`: the lines of an element, each with the number of elements open around it

## Main Statements

- `Writer.single_writes`, `Writer.root_writes`: writing a value fails exactly when its element has
  an illegal name, and otherwise adds the lines of the element and restores the depth

## Design Notes

A writing step is specified by `Writes`, for every state of the writer at once.  The relation is
closed under sequencing (`Writes.seq`) and under wrapping steps into an element (`Writes.nested`),
so the induction over values never looks at a writer.
-/

namespace CloudStub.Xml

/-- An element as it is written: as an empty tag, around text on one line, or around lines. -/
inductive Markup where
  /-- An empty tag. -/
  | empty (name : String) (attributes : List (String × String))
  /-- Start tag, text and end tag on one line. -/
  | text (name : String) (attributes : List (String × String)) (body : String)
  /-- Start tag and end tag on lines of their own, between them a line of text and the children. -/
  | block (name : String) (attributes : List (String × String)) (own : Option String)
      (children : List Markup)

namespace Markup

/-! ## The element of a value -/

/-- The attributes that the members of an object give rise to, in key order. -/
def attributesOf (members : List (String × Json)) : List (String × String) :=
  members.filterMap fun kv =>
    (Writer.attributeName? kv.1).map fun name => (name, Writer.plainText kv.2)

mutual

/-- The element of a value. -/
def ofValue (name : String) : Json → Markup
  | .null => .empty name []
  | .obj members =>
    if Writer.hasChild members.toList then
      .block name (attributesOf members.toList) (Writer.ownText? members.toList)
        (ofMembers members)
    else
      match Writer.ownText? members.toList with
      | some body => .text name (attributesOf members.toList) body
      | none => .empty name (attributesOf members.toList)
  | .arr items => .block name [] none (ofItems itemName items)
  | .bool b => .text name [] (Writer.plainText (.bool b))
  | .num n => .text name [] (Writer.plainText (.num n))
  | .str s => .text name [] (Writer.plainText (.str s))

/-- The elements of several values of one name. -/
def ofItems (name : String) : List Json → List Markup
  | [] => []
  | v :: rest => ofValue name v :: ofItems name rest

/-- The child elements of an object. -/
def ofMembers {start : Option String} : Dict.Behind Json start → List Markup
  | .nil => []
  | .cons key v _ rest =>
    if Writer.isChild key then
      (match v with
        | .arr items => ofItems key items
        | v => [ofValue key v]) ++ ofMembers rest
    else ofMembers rest

end

/-- The name of an element. -/
def name : Markup → String
  | .empty name _ => name
  | .text name _ _ => name
  | .block name _ _ _ => name

@[simp]
theorem name_ofValue (n : String) (v : Json) : (ofValue n v).name = n := by
  cases v with
  | obj members =>
    unfold ofValue
    split
    · rfl
    · split <;> rfl
  | null => rfl
  | bool b => rfl
  | num n => rfl
  | str s => rfl
  | arr items => rfl

/-! ## Legal names -/

/-- Whether every attribute has a legal name. -/
def legalAttributes (attributes : List (String × String)) : Bool :=
  attributes.all fun a => isName a.1

mutual

/-- Whether every element and every attribute has a legal name. -/
def legal : Markup → Bool
  | .empty name attributes => isName name && legalAttributes attributes
  | .text name attributes _ => isName name && legalAttributes attributes
  | .block name attributes _ children =>
    isName name && legalAttributes attributes && allLegal children

/-- Whether every name in every element of a list is legal. -/
def allLegal : List Markup → Bool
  | [] => true
  | m :: rest => legal m && allLegal rest

end

theorem allLegal_append (a b : List Markup) : allLegal (a ++ b) = (allLegal a && allLegal b) := by
  induction a with
  | nil => simp [allLegal]
  | cons m rest ih => simp [allLegal, ih, Bool.and_assoc]

end Markup

/-! ## Lines -/

/-- A line with the number of elements that are open around it. -/
structure Line where
  /-- The number of open elements. -/
  depth : Nat
  /-- What stands behind the indentation. -/
  content : String

/-- A text with one more line. -/
def Line.addTo (out : String) (l : Line) : String :=
  (if out.isEmpty then "" else out ++ "\n") ++ Writer.margin l.depth ++ l.content

namespace Markup

/-- The attributes as they stand in a tag, each with a space in front. -/
def attributeText : List (String × String) → String
  | [] => ""
  | (name, value) :: rest => " " ++ name ++ "=\"" ++ escape value ++ "\"" ++ attributeText rest

/-- The start tag. -/
def startTag (name : String) (attributes : List (String × String)) : String :=
  "<" ++ name ++ attributeText attributes ++ ">"

/-- The end tag. -/
def endTag (name : String) : String := "</" ++ name ++ ">"

/-- The line of text in front of the children. -/
def ownLines (depth : Nat) : Option String → List Line
  | some body => [⟨depth, escape body⟩]
  | none => []

mutual

/-- The lines of an element with `depth` elements open around it. -/
def lines (depth : Nat) : Markup → List Line
  | .empty name attributes => [⟨depth, "<" ++ name ++ attributeText attributes ++ "/>"⟩]
  | .text name attributes body =>
    [⟨depth, startTag name attributes ++ escape body ++ endTag name⟩]
  | .block name attributes own children =>
    ⟨depth, startTag name attributes⟩ ::
      (ownLines (depth + 1) own ++ allLines (depth + 1) children ++ [⟨depth, endTag name⟩])

/-- The lines of several elements. -/
def allLines (depth : Nat) : List Markup → List Line
  | [] => []
  | m :: rest => lines depth m ++ allLines depth rest

end

theorem allLines_append (depth : Nat) (a b : List Markup) :
    allLines depth (a ++ b) = allLines depth a ++ allLines depth b := by
  induction a with
  | nil => simp [allLines]
  | cons m rest ih => simp [allLines, ih]

end Markup

/-! ## Writing steps -/

/-- The writer behind several more lines. -/
def Writer.addLines (w : Writer) (ls : List Line) : Writer :=
  { w with out := ls.foldl Line.addTo w.out }

@[simp]
theorem Writer.addLines_nil (w : Writer) : w.addLines [] = w := rfl

@[simp]
theorem Writer.depth_addLines (w : Writer) (ls : List Line) : (w.addLines ls).depth = w.depth :=
  rfl

theorem Writer.addLines_append (w : Writer) (a b : List Line) :
    w.addLines (a ++ b) = (w.addLines a).addLines b := by
  simp [addLines, List.foldl_append]

/-- A step fails exactly when `legal` is false; when it succeeds it adds the lines for the depth at
which it starts, and ends at that depth. -/
structure Writes (step : Write Unit) (legal : Bool) (lines : Nat → List Line) : Prop where
  /-- The step succeeds when `legal` is true. -/
  ok : legal = true → ∀ w, step.run w = .ok () (w.addLines (lines w.depth))
  /-- The step fails when `legal` is false. -/
  error : legal = false → ∀ w, ∃ e w', step.run w = .error e w'

namespace Writes

variable {a b : Write Unit} {legalA legalB : Bool} {linesA linesB : Nat → List Line}

theorem pure : Writes (Pure.pure ()) true fun _ => [] :=
  ⟨fun _ _ => rfl, fun h => by simp at h⟩

theorem line (content : String) : Writes (Writer.line content) true fun d => [⟨d, content⟩] :=
  ⟨fun _ _ => rfl, fun h => by simp at h⟩

theorem check (name : String) : Writes (Writer.check name) (isName name) fun _ => [] where
  ok h w := by simp [Writer.check, h]
  error h w := by
    rw [Writer.check, h]
    exact ⟨⟨name⟩, w, rfl⟩

/-- Two steps in a row: both have to be legal, and their lines follow one another. -/
theorem seq (ha : Writes a legalA linesA) (hb : Writes b legalB linesB) :
    Writes (do a; b) (legalA && legalB) fun d => linesA d ++ linesB d where
  ok h w := by
    rw [Bool.and_eq_true] at h
    rw [EStateM.run_bind, ha.ok h.1]
    simp only [hb.ok h.2, Writer.addLines_append, Writer.depth_addLines]
  error h w := by
    rw [EStateM.run_bind]
    cases hA : legalA with
    | false =>
      obtain ⟨e, w', he⟩ := ha.error hA w
      exact ⟨e, w', by rw [he]⟩
    | true =>
      -- The first step succeeds, so it is the second one that fails.
      have hB : legalB = false := by simpa [hA] using h
      rw [ha.ok hA]
      exact hb.error hB _

/-- A step between a start tag and an end tag writes its lines one level deeper. -/
theorem nested (name content : String) (ha : Writes a legalA linesA) :
    Writes (do Writer.line content; Writer.nest (· + 1); a; Writer.closeTag name) legalA
      fun d => ⟨d, content⟩ :: (linesA (d + 1) ++ [⟨d, Markup.endTag name⟩]) where
  ok h w := by
    simp only [Writer.line, Writer.nest, Writer.closeTag, EStateM.run_bind, EStateM.run_modify,
      ha.ok h]
    simp [Writer.addLines, Writer.addLine, Line.addTo, Markup.endTag]
  error h w := by
    simp only [Writer.line, Writer.nest, EStateM.run_bind, EStateM.run_modify]
    obtain ⟨e, w', he⟩ := ha.error h ⟨(w.addLine content).out, (w.addLine content).depth + 1⟩
    exact ⟨e, w', by rw [he]⟩

/-- Lines and legality may be given in another form. -/
theorem congr (ha : Writes a legalA linesA) (hlegal : legalA = legalB)
    (hlines : ∀ d, linesA d = linesB d) : Writes a legalB linesB := by
  obtain rfl : linesA = linesB := funext hlines
  exact hlegal ▸ ha

end Writes

/-! ## Writing values -/

namespace Writer

theorem attributes_ok {members : List (String × Json)}
    (h : Markup.legalAttributes (Markup.attributesOf members) = true) (w : Writer) :
    (attributes members).run w = .ok (Markup.attributeText (Markup.attributesOf members)) w := by
  induction members with
  | nil => rfl
  | cons kv rest ih =>
    obtain ⟨key, v⟩ := kv
    unfold attributes
    cases hkey : attributeName? key with
    | none =>
      simp only [Markup.attributesOf, List.filterMap_cons, hkey, Option.map_none] at h ⊢
      exact ih h
    | some name =>
      simp only [Markup.attributesOf, List.filterMap_cons, hkey, Option.map_some,
        Markup.legalAttributes, List.all_cons, Bool.and_eq_true] at h ⊢
      simp only [EStateM.run_bind, (Writes.check name).ok h.1, Writer.addLines_nil]
      rw [ih h.2]
      rfl

theorem attributes_error {members : List (String × Json)}
    (h : Markup.legalAttributes (Markup.attributesOf members) = false) (w : Writer) :
    ∃ e w', (attributes members).run w = .error e w' := by
  induction members with
  | nil => simp [Markup.attributesOf, Markup.legalAttributes] at h
  | cons kv rest ih =>
    obtain ⟨key, v⟩ := kv
    unfold attributes
    cases hkey : attributeName? key with
    | none =>
      simp only [Markup.attributesOf, List.filterMap_cons, hkey, Option.map_none] at h
      exact ih h
    | some name =>
      simp only [Markup.attributesOf, List.filterMap_cons, hkey, Option.map_some,
        Markup.legalAttributes, List.all_cons, Bool.and_eq_false_iff] at h
      rw [EStateM.run_bind]
      cases hname : isName name with
      | false =>
        obtain ⟨e, w', he⟩ := (Writes.check name).error hname w
        exact ⟨e, w', by rw [he]⟩
      | true =>
        -- This name is legal, so the fault is in a later one.
        obtain ⟨e, w', he⟩ := ih (h.resolve_left (by simp [hname]))
        refine ⟨e, w', ?_⟩
        simp only [(Writes.check name).ok hname, Writer.addLines_nil, EStateM.run_bind, he]

/-- A step that uses the attributes of an object fails also when one of them has an illegal name. -/
theorem attributes_bind (members : List (String × Json)) {step : String → Write Unit}
    {legal : Bool} {lines : Nat → List Line}
    (hstep : Writes (step (Markup.attributeText (Markup.attributesOf members))) legal lines) :
    Writes (do step (← attributes members))
      (Markup.legalAttributes (Markup.attributesOf members) && legal) lines where
  ok h w := by
    rw [Bool.and_eq_true] at h
    rw [EStateM.run_bind, attributes_ok h.1]
    exact hstep.ok h.2 w
  error h w := by
    rw [EStateM.run_bind]
    cases hattrs : Markup.legalAttributes (Markup.attributesOf members) with
    | false =>
      obtain ⟨e, w', he⟩ := attributes_error hattrs w
      exact ⟨e, w', by rw [he]⟩
    | true =>
      have hlegal : legal = false := by simpa [hattrs] using h
      rw [attributes_ok hattrs]
      exact hstep.error hlegal w

theorem textElement_writes (name text : String) :
    Writes (textElement name text) (Markup.text name [] text).legal
      fun d => (Markup.text name [] text).lines d := by
  refine ((Writes.check name).seq (Writes.line _)).congr ?_ fun d => ?_
  · simp [Markup.legal, Markup.legalAttributes]
  · simp [Markup.lines, Markup.startTag, Markup.endTag, Markup.attributeText, String.append_assoc]

theorem childless_writes (name attrs : String) (text : Option String) :
    Writes (childless name attrs text) true fun d =>
      match text with
      | some text => [⟨d, "<" ++ name ++ attrs ++ ">" ++ escape text ++ Markup.endTag name⟩]
      | none => [⟨d, "<" ++ name ++ attrs ++ "/>"⟩] := by
  cases text with
  | some text =>
    refine (Writes.line _).congr rfl fun d => ?_
    simp [Markup.endTag, String.append_assoc]
  | none => exact Writes.line _

theorem openTag_nested {a : Write Unit} {legal : Bool} {lines : Nat → List Line} (name : String)
    (ha : Writes a legal lines) :
    Writes (do openTag name; a; closeTag name) (isName name && legal)
      fun d => ⟨d, Markup.startTag name []⟩ :: (lines (d + 1) ++ [⟨d, Markup.endTag name⟩]) := by
  have h := (Writes.check name).seq (Writes.nested name ("<" ++ name ++ ">") ha)
  simp only [openTag, bind_assoc]
  refine h.congr rfl fun d => ?_
  simp [Markup.startTag, Markup.attributeText]

theorem ownLine_writes (own : Option String) :
    Writes (ownLine own) true fun d => Markup.ownLines d own := by
  cases own with
  | some text => exact Writes.line _
  | none => exact Writes.pure

/-- The element of an object, given what its child elements write. -/
theorem object_writes (name : String) (members : Dict Json)
    (hchildren : Writes (childrenWith closeTag members)
      (Markup.allLegal (Markup.ofMembers members))
      fun d => Markup.allLines d (Markup.ofMembers members)) :
    Writes (single name (.obj members)) (Markup.ofValue name (.obj members)).legal
      fun d => (Markup.ofValue name (.obj members)).lines d := by
  unfold single singleWith Markup.ofValue
  cases hasChild members.toList with
  | true =>
    -- The text in front of the children and the children are what the tags enclose.
    have hblock := Writes.nested name
      ("<" ++ name ++ Markup.attributeText (Markup.attributesOf members.toList) ++ ">")
      ((ownLine_writes (ownText? members.toList)).seq hchildren)
    rw [bind_assoc] at hblock
    refine Writes.congr ((Writes.check name).seq (attributes_bind _ hblock)) ?_ fun d => ?_
    · simp [Markup.legal, Bool.and_assoc]
    · simp [Markup.lines, Markup.startTag]
  | false =>
    have hline := childless_writes name
      (Markup.attributeText (Markup.attributesOf members.toList)) (ownText? members.toList)
    refine Writes.congr ((Writes.check name).seq (attributes_bind _ hline)) ?_ fun d => ?_
    · cases ownText? members.toList <;> simp [Markup.legal]
    · cases ownText? members.toList <;> simp [Markup.lines, Markup.startTag]

/-- The element of an array, given what its items write. -/
theorem array_writes (name : String) (items : List Json)
    (hitems : Writes (elementsWith closeTag itemName items)
      (Markup.allLegal (Markup.ofItems itemName items))
      fun d => Markup.allLines d (Markup.ofItems itemName items)) :
    Writes (do openTag name; elementsWith closeTag itemName items; closeTag name)
      (Markup.ofValue name (.arr items)).legal
      fun d => (Markup.ofValue name (.arr items)).lines d := by
  refine (openTag_nested name hitems).congr ?_ fun d => ?_
  · simp [Markup.ofValue, Markup.legal, Markup.legalAttributes]
  · simp [Markup.ofValue, Markup.lines, Markup.ownLines]

mutual

/-- Writing a value fails exactly when its element has an illegal name, and otherwise adds the
lines of the element. -/
theorem single_writes (name : String) : (v : Json) →
    Writes (single name v) (Markup.ofValue name v).legal fun d => (Markup.ofValue name v).lines d
  | .null => by
    refine ((Writes.check name).seq (Writes.line _)).congr ?_ fun d => ?_
    · simp [Markup.ofValue, Markup.legal, Markup.legalAttributes]
    · simp [Markup.ofValue, Markup.lines, Markup.attributeText]
  | .obj members => object_writes name members (children_writes members)
  | .arr items => by
    -- The name is checked here and once more when the tag is opened.
    have h := (Writes.check name).seq (array_writes name items (elements_writes itemName items))
    unfold single singleWith
    refine h.congr ?_ fun d => rfl
    simp [Markup.ofValue, Markup.legal, ← Bool.and_assoc]
  | .bool b => textElement_writes name (plainText (.bool b))
  | .num n => textElement_writes name (plainText (.num n))
  | .str s => textElement_writes name (plainText (.str s))

theorem elements_writes (name : String) : (items : List Json) →
    Writes (elementsWith closeTag name items) (Markup.allLegal (Markup.ofItems name items))
      fun d => Markup.allLines d (Markup.ofItems name items)
  | [] => Writes.pure
  | v :: rest => (single_writes name v).seq (elements_writes name rest)

theorem children_writes {start : Option String} : (members : Dict.Behind Json start) →
    Writes (childrenWith closeTag members) (Markup.allLegal (Markup.ofMembers members))
      fun d => Markup.allLines d (Markup.ofMembers members)
  | .nil => Writes.pure
  | .cons key v _ rest => by
    have hrest := children_writes rest
    have hsingle := single_writes key v
    unfold childrenWith Markup.ofMembers
    cases isChild key with
    | false => exact hrest
    | true =>
      simp only [if_true, Markup.allLegal_append, Markup.allLines_append]
      cases v with
      | arr items => exact (elements_writes key items).seq hrest
      | _ =>
        -- Of all values only an array stands for other than one element.
        refine Writes.congr (hsingle.seq hrest) ?_ fun d => ?_
        · simp [Markup.allLegal]
        · simp [Markup.allLines]

end

/-- The root element of a value is written like any other element. -/
theorem root_writes (name : String) (v : Json) :
    Writes (root name v) (Markup.ofValue name v).legal
      fun d => (Markup.ofValue name v).lines d := by
  cases v with
  | arr items => exact array_writes name items (elements_writes itemName items)
  | _ => exact single_writes name _

end Writer

end CloudStub.Xml
