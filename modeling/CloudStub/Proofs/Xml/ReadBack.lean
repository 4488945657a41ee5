import CloudStub.Proofs.Xml.Characters
import CloudStub.Proofs.Xml.Reader

/-!
# Reading back what was written

A document is read back as the tree of its value.  The lines of the writer reach the reader as
spaces and line ends in the texts of elements that have children, so the trees agree up to those.

## Main Definitions

- `Markup.asRead`: the tree of a written element, with the layout in its texts

## Main Statements

- `Reader.reads_chars`: reading a written element adds one element, whatever is open around it
- `Markup.trimmed_asRead`: the layout is all that reading adds
- `document_reads_back`: a document reads back as the tree of its value, and strings of the value
  have no influence on its elements and attributes
-/

namespace CloudStub.Xml

namespace Reader

variable {stack : List Open} {root : Option Tree}

/-! ## Text -/

theorem reads_escapeChar (o : Open) (stack : List Open) (root : Option Tree) (c : Char) :
    Reads ⟨.content, o :: stack, root⟩ (escapeChar c)
      ⟨.content, { o with text := o.text ++ [c] } :: stack, root⟩ := by
  unfold escapeChar
  split
  · subst c; rfl
  split
  · subst c; rfl
  split
  · subst c; rfl
  split
  · subst c; rfl
  split
  · subst c; rfl
  · rename_i hand hless _ _ _
    exact Reads.single (by simp [step, hand, hless, State.addText])

/-- Escaped text becomes text of the innermost element. -/
theorem reads_escaped (o : Open) (stack : List Open) (root : Option Tree) (text : String) :
    Reads ⟨.content, o :: stack, root⟩ (escaped text)
      ⟨.content, { o with text := o.text ++ text.toList } :: stack, root⟩ := by
  have hchar : ∀ front, ∀ c ∈ text.toList,
      Reads ⟨.content, { o with text := o.text ++ front } :: stack, root⟩ (escapeChar c)
        ⟨.content, { o with text := o.text ++ (front ++ [c]) } :: stack, root⟩ := by
    intro front c _
    rw [← List.append_assoc]
    exact reads_escapeChar _ stack root c
  simpa [escaped] using Reads.flatMap
    (f := fun front => ⟨.content, { o with text := o.text ++ front } :: stack, root⟩) hchar []

/-- So do spaces and line ends. -/
theorem reads_layout (o : Open) (stack : List Open) (root : Option Tree) {layout : List Char}
    (h : ∀ c ∈ layout, Tree.isLayout c = true) :
    Reads ⟨.content, o :: stack, root⟩ layout
      ⟨.content, { o with text := o.text ++ layout } :: stack, root⟩ := by
  have hchar : ∀ front, ∀ c ∈ layout,
      Reads ⟨.content, { o with text := o.text ++ front } :: stack, root⟩ [c]
        ⟨.content, { o with text := o.text ++ (front ++ [c]) } :: stack, root⟩ := by
    intro front c hc
    rw [← List.append_assoc]
    have hlayout := h c hc
    rcases (by simpa [Tree.isLayout] using hlayout : c = ' ' ∨ c = '\n') with rfl | rfl
    · exact Reads.single rfl
    · exact Reads.single rfl
  simpa using Reads.flatMap
    (f := fun front => ⟨.content, { o with text := o.text ++ front } :: stack, root⟩) hchar []

/-! ## Tags -/

theorem reads_valueChar (name : List Char) (attributes : List (String × String))
    (key value : List Char) (c : Char) :
    Reads ⟨.value name attributes key value, stack, root⟩ (escapeChar c)
      ⟨.value name attributes key (value ++ [c]), stack, root⟩ := by
  unfold escapeChar
  split
  · subst c; rfl
  split
  · subst c; rfl
  split
  · subst c; rfl
  split
  · subst c; rfl
  split
  · subst c; rfl
  · rename_i hand hless _ hquote _
    exact Reads.single (by simp [step, hand, hless, hquote])

theorem reads_value (name : List Char) (attributes : List (String × String)) (key : List Char)
    (text : String) :
    Reads ⟨.value name attributes key [], stack, root⟩ (escaped text)
      ⟨.value name attributes key text.toList, stack, root⟩ :=
  Reads.flatMap (f := fun front => ⟨.value name attributes key front, stack, root⟩)
    (fun front c _ => reads_valueChar name attributes key front c) []

theorem reads_key (name : List Char) (attributes : List (String × String)) {key : String}
    (hkey : isName key = true) :
    Reads ⟨.key name attributes [], stack, root⟩ key.toList
      ⟨.key name attributes key.toList, stack, root⟩ := by
  refine reads_name (m := fun k => .key name attributes k) ?_ ?_ hkey
  · intro c hc
    simp [step, hc]
  · intro front c hfront hc
    simp [step, hc, hfront]

theorem toList_ne_nil_of_isName {name : String} (h : isName name = true) : name.toList ≠ [] := by
  intro hnil
  simp [isName, hnil] at h

/-- The attributes of a tag. -/
theorem reads_attributes (name : List Char) {attributes : List (String × String)}
    (h : Markup.legalAttributes attributes = true) (front : List (String × String)) :
    Reads ⟨.tag name front, stack, root⟩ (Markup.attributeChars attributes)
      ⟨.tag name (front ++ attributes), stack, root⟩ := by
  induction attributes generalizing front with
  | nil =>
    rw [List.append_nil]
    exact Reads.nil _
  | cons a rest ih =>
    obtain ⟨key, value⟩ := a
    simp only [Markup.legalAttributes, List.all_cons, Bool.and_eq_true] at h
    have hspace : step ⟨.tag name front, stack, root⟩ ' ' =
        some ⟨.key name front [], stack, root⟩ := by
      simp [step]
    have hequals : step ⟨.key name front key.toList, stack, root⟩ '=' =
        some ⟨.equals name front key.toList, stack, root⟩ := by
      have hne := toList_ne_nil_of_isName h.1
      simp [step, hne]
    have hopen : step ⟨.equals name front key.toList, stack, root⟩ '"' =
        some ⟨.value name front key.toList [], stack, root⟩ := by
      simp [step]
    have hclose : step ⟨.value name front key.toList value.toList, stack, root⟩ '"' =
        some ⟨.tag name (front ++ [(key, value)]), stack, root⟩ := by
      simp [step]
    have hrest := ih h.2 (front ++ [(key, value)])
    rw [List.append_assoc, List.singleton_append] at hrest
    exact Reads.cons hspace ((reads_key name front h.1).append (Reads.cons hequals
      (Reads.cons hopen ((reads_value name front key.toList value).append
        (Reads.cons hclose hrest)))))

/-- A tag up to its end, where a tag may stand. -/
theorem reads_tag (hplace : (stack.isEmpty && root.isSome) = false) {name : String}
    (hname : isName name = true) {attributes : List (String × String)}
    (h : Markup.legalAttributes attributes = true) :
    Reads ⟨.content, stack, root⟩ ('<' :: (name.toList ++ Markup.attributeChars attributes))
      ⟨.tag name.toList attributes, stack, root⟩ := by
  have hopen : step ⟨.content, stack, root⟩ '<' = some ⟨.opened, stack, root⟩ := by
    simp only [step, hplace]
    rfl
  have hread : Reads ⟨.opened, stack, root⟩ name.toList ⟨.tag name.toList [], stack, root⟩ := by
    refine reads_name (m := fun n => .tag n []) ?_ ?_ hname
    · intro c hc
      simp [step, hc]
    · intro front c _ hc
      simp [step, hc]
  exact Reads.cons hopen (hread.append (reads_attributes name.toList h []))

/-- An end tag closes the innermost element when it carries its name. -/
theorem reads_endTag (o : Open) (stack : List Open) (root : Option Tree)
    (hname : isName o.name = true) :
    Reads ⟨.content, o :: stack, root⟩ ('<' :: '/' :: (o.name.toList ++ ['>']))
      (State.addElement ⟨.content, stack, root⟩ o.tree) := by
  have hopen : step ⟨.content, o :: stack, root⟩ '<' = some ⟨.opened, o :: stack, root⟩ := by
    simp [step]
  have hslash : step ⟨.opened, o :: stack, root⟩ '/' = some ⟨.endTag [], o :: stack, root⟩ := by
    simp [step]
  have hread : Reads ⟨.endTag [], o :: stack, root⟩ o.name.toList
      ⟨.endTag o.name.toList, o :: stack, root⟩ := by
    refine reads_name (m := fun n => .endTag n) ?_ ?_ hname
    · intro c hc
      simp [step, hc]
    · intro front c hfront hc
      simp [step, hc, hfront]
  have hclose : step ⟨.endTag o.name.toList, o :: stack, root⟩ '>' =
      some (State.addElement ⟨.content, stack, root⟩ o.tree) := by
    have hne := toList_ne_nil_of_isName hname
    simp [step, hne, State.close]
  exact Reads.cons hopen (Reads.cons hslash (hread.append (Reads.single hclose)))

end Reader

/-! ## Trees as they are read -/

namespace Markup

/-- The line end and the indentation in front of a line. -/
def layout (depth : Nat) : List Char := '\n' :: blanks depth

/-- The own text of a block behind its layout. -/
def ownAsRead (depth : Nat) : Option String → List Char
  | some body => layout depth ++ body.toList
  | none => []

/-- All the text of a block: its own text, the layout of each child and that of the end tag. -/
def textAsRead (depth : Nat) (own : Option String) (children : List Markup) : List Char :=
  ownAsRead (depth + 1) own ++ ((children.flatMap fun _ => layout (depth + 1)) ++ layout depth)

mutual

/-- The tree of a written element with the layout in its texts. -/
def asRead (depth : Nat) : Markup → Tree
  | .empty name attributes => .element name attributes "" []
  | .text name attributes body => .element name attributes body []
  | .block name attributes own children =>
    .element name attributes (String.ofList (textAsRead depth own children))
      (allAsRead (depth + 1) children)

/-- The trees of several written elements. -/
def allAsRead (depth : Nat) : List Markup → List Tree
  | [] => []
  | m :: rest => asRead depth m :: allAsRead depth rest

end

theorem isLayout_of_mem_layout (depth : Nat) : ∀ c ∈ layout depth, Tree.isLayout c = true := by
  intro c hc
  rcases List.mem_cons.1 hc with rfl | h
  · rfl
  · rw [mem_blanks h]
    rfl

theorem trim_textAsRead (depth : Nat) (own : Option String) (children : List Markup) :
    Tree.trim (textAsRead depth own children) = Tree.trim (own.getD "").toList := by
  have hbehind : ∀ c ∈ (children.flatMap fun _ => layout (depth + 1)) ++ layout depth,
      Tree.isLayout c = true := by
    intro c hc
    rcases List.mem_append.1 hc with hc | hc
    · obtain ⟨_, _, hc⟩ := List.mem_flatMap.1 hc
      exact isLayout_of_mem_layout _ c hc
    · exact isLayout_of_mem_layout _ c hc
  rw [textAsRead, Tree.trim_append_right hbehind]
  cases own with
  | none => rfl
  | some body => exact Tree.trim_append_left (isLayout_of_mem_layout _) body.toList

mutual

/-- Up to spaces and line ends around texts, an element is read as its tree. -/
theorem trimmed_asRead (depth : Nat) : (m : Markup) → (m.asRead depth).trimmed = m.tree.trimmed
  | .empty _ _ => rfl
  | .text _ _ _ => rfl
  | .block name attributes own children => by
    have hchildren := allTrimmed_allAsRead (depth + 1) children
    rw [asRead, tree, Tree.trimmed, Tree.trimmed, hchildren, String.toList_ofList,
      trim_textAsRead]

theorem allTrimmed_allAsRead (depth : Nat) : (ms : List Markup) →
    Tree.allTrimmed (allAsRead depth ms) = Tree.allTrimmed (allTrees ms)
  | [] => rfl
  | m :: rest => by
    rw [allAsRead, allTrees, Tree.allTrimmed, Tree.allTrimmed, trimmed_asRead depth m,
      allTrimmed_allAsRead depth rest]

end

end Markup

namespace Reader

variable {stack : List Open} {root : Option Tree}

/-! ## Elements -/

theorem reads_emptyTag (hplace : (stack.isEmpty && root.isSome) = false) {name : String}
    (hname : isName name = true) {attributes : List (String × String)}
    (h : Markup.legalAttributes attributes = true) :
    Reads ⟨.content, stack, root⟩
      ('<' :: (name.toList ++ Markup.attributeChars attributes) ++ ['/', '>'])
      (State.addElement ⟨.content, stack, root⟩ (.element name attributes "" [])) := by
  have hslash : step ⟨.tag name.toList attributes, stack, root⟩ '/' =
      some ⟨.emptyEnd name.toList attributes, stack, root⟩ := by
    simp [step]
  have hend : step ⟨.emptyEnd name.toList attributes, stack, root⟩ '>' =
      some (State.addElement ⟨.content, stack, root⟩ (.element name attributes "" [])) := by
    cases stack <;> simp [step, State.addElement]
  exact (reads_tag hplace hname h).append (Reads.cons hslash (Reads.single hend))

theorem reads_startTag (hplace : (stack.isEmpty && root.isSome) = false) {name : String}
    (hname : isName name = true) {attributes : List (String × String)}
    (h : Markup.legalAttributes attributes = true) :
    Reads ⟨.content, stack, root⟩
      ('<' :: (name.toList ++ Markup.attributeChars attributes) ++ ['>'])
      ⟨.content, ⟨name, attributes, [], []⟩ :: stack, root⟩ := by
  have hend : step ⟨.tag name.toList attributes, stack, root⟩ '>' =
      some ⟨.content, ⟨name, attributes, [], []⟩ :: stack, root⟩ := by
    simp [step, State.enter]
  exact (reads_tag hplace hname h).append (Reads.single hend)

/-- The own text of a block, on a line of its own. -/
theorem reads_ownLines (o : Open) (stack : List Open) (root : Option Tree) (depth : Nat)
    (own : Option String) :
    Reads ⟨.content, o :: stack, root⟩ ((Markup.ownLines depth own).flatMap Line.chars)
      ⟨.content, { o with text := o.text ++ Markup.ownAsRead depth own } :: stack, root⟩ := by
  cases own with
  | none => simpa [Markup.ownLines, Markup.ownAsRead] using Reads.nil _
  | some body =>
    have hlayout := reads_layout o stack root (Markup.isLayout_of_mem_layout depth)
    have hbody := hlayout.append (reads_escaped _ stack root body)
    simpa [Markup.ownLines, Markup.ownAsRead, Line.chars, Markup.layout] using hbody

mutual

/-- Reading a written element adds one element, whatever is open around it. -/
theorem reads_chars (depth : Nat) : (m : Markup) → m.legal = true →
    ∀ (stack : List Open) (root : Option Tree), (stack.isEmpty && root.isSome) = false →
      Reads ⟨.content, stack, root⟩ (m.chars depth)
        (State.addElement ⟨.content, stack, root⟩ (m.asRead depth))
  | .empty name attributes, hlegal, stack, root, hplace => by
    rw [Markup.legal, Bool.and_eq_true] at hlegal
    have h := reads_emptyTag hplace hlegal.1 hlegal.2
    rwa [List.cons_append, List.append_assoc] at h
  | .text name attributes body, hlegal, stack, root, hplace => by
    rw [Markup.legal, Bool.and_eq_true] at hlegal
    have hstart := reads_startTag hplace hlegal.1 hlegal.2
    have hbody := reads_escaped ⟨name, attributes, [], []⟩ stack root body
    have hend := reads_endTag ⟨name, attributes, body.toList, []⟩ stack root hlegal.1
    have h := (hstart.append hbody).append hend
    simpa [Markup.chars, Markup.name, Markup.inside, Markup.closing, Markup.asRead, Open.tree]
      using h
  | .block name attributes own children, hlegal, stack, root, hplace => by
    rw [Markup.legal, Bool.and_eq_true, Bool.and_eq_true] at hlegal
    obtain ⟨⟨hname, hattributes⟩, hchildren⟩ := hlegal
    have hstart := reads_startTag hplace hname hattributes
    have hown := reads_ownLines ⟨name, attributes, [], []⟩ stack root (depth + 1) own
    have hlines := reads_allLines (depth + 1) children hchildren
      ⟨name, attributes, Markup.ownAsRead (depth + 1) own, []⟩ stack root
    have hlayout := reads_layout
      ⟨name, attributes,
        Markup.ownAsRead (depth + 1) own ++ children.flatMap fun _ => Markup.layout (depth + 1),
        Markup.allAsRead (depth + 1) children⟩ stack root (Markup.isLayout_of_mem_layout depth)
    -- The texts of the pieces add up to the text of the block.
    have hend := reads_endTag
      ⟨name, attributes, Markup.textAsRead depth own children,
        Markup.allAsRead (depth + 1) children⟩ stack root hname
    rw [Markup.textAsRead, ← List.append_assoc] at hend
    have h := (((hstart.append hown).append hlines).append hlayout).append hend
    rw [Markup.asRead, Markup.textAsRead]
    simpa [Markup.chars_block, Markup.blockChars, Markup.layout, Open.tree] using h

theorem reads_allLines (depth : Nat) : (ms : List Markup) → Markup.allLegal ms = true →
    ∀ (o : Open) (stack : List Open) (root : Option Tree),
      Reads ⟨.content, o :: stack, root⟩ ((Markup.allLines depth ms).flatMap Line.chars)
        ⟨.content, { o with text := o.text ++ ms.flatMap fun _ => Markup.layout depth,
                            children := o.children ++ Markup.allAsRead depth ms } :: stack, root⟩
  | [], _, o, stack, root => by
    simpa [Markup.allLines, Markup.allAsRead] using Reads.nil _
  | m :: rest, hlegal, o, stack, root => by
    rw [Markup.allLegal, Bool.and_eq_true] at hlegal
    have hlayout := reads_layout o stack root (Markup.isLayout_of_mem_layout depth)
    -- The layout in front of the first element is text of the open one.
    have hfirst := reads_chars depth m hlegal.1
      ({ o with text := o.text ++ Markup.layout depth } :: stack) root rfl
    have hrest := reads_allLines depth rest hlegal.2
      { o with text := o.text ++ Markup.layout depth,
               children := o.children ++ [m.asRead depth] } stack root
    have h := (hlayout.append hfirst).append hrest
    simpa [Markup.allLines, Markup.flatMap_lines, Markup.allAsRead, Markup.layout] using h

end

end Reader

/-- The text of an element is read as the element. -/
theorem read_eq_some {m : Markup} (hlegal : m.legal = true) {text : String}
    (htext : text.toList = m.chars 0) : read text = some (m.asRead 0) := by
  have h := Reader.reads_chars 0 m hlegal [] none rfl
  unfold Reader.Reads at h
  rw [read, htext, Reader.start, h]
  rfl

/-! ## Documents -/

/-- There is a document of a value exactly when its tree has only legal names. -/
theorem exists_document_iff (name : String) (v : Json) :
    (∃ out, document name v = .ok out) ↔ (Tree.ofValue name v).legal = true := by
  rw [← Markup.tree_ofValue, Markup.legal_tree]
  exact exists_ok_iff (document_eq_ok_iff name v)

/-- A document is read as the tree of its value, up to spaces and line ends around texts. -/
theorem read_document {name : String} {v : Json} {out : String} (h : document name v = .ok out) :
    ∃ t, read out = some t ∧ t.trimmed = (Tree.ofValue name v).trimmed := by
  obtain ⟨hlegal, htext⟩ := (document_eq_ok_iff name v out).1 h
  refine ⟨_, read_eq_some hlegal htext, ?_⟩
  rw [Markup.trimmed_asRead, Markup.tree_ofValue]

theorem outline_of_read_document {name : String} {v : Json} {out : String} {t : Tree}
    (h : document name v = .ok out) (ht : read out = some t) :
    t.outline = (Tree.ofValue name v).outline := by
  obtain ⟨t', ht', htrimmed⟩ := read_document h
  obtain rfl : t = t' := Option.some.inj (ht.symm.trans ht')
  rw [← Tree.outline_trimmed t, htrimmed, Tree.outline_trimmed]

/-- A document reads back as the tree of its value.  A value that differs in its strings alone has
a document as well, and that reads back as a tree with the same elements and attributes. -/
theorem document_reads_back (name : String) (v : Json) (out : String)
    (h : document name v = .ok out) :
    ∃ t, read out = some t ∧ t.trimmed = (Tree.ofValue name v).trimmed ∧
      ∀ v' : Json, v'.blanked = v.blanked →
        ∃ out' t', document name v' = .ok out' ∧ read out' = some t' ∧
          t'.outline = t.outline := by
  obtain ⟨t, ht, htrimmed⟩ := read_document h
  refine ⟨t, ht, htrimmed, ?_⟩
  intro v' hstrings
  have houtline : (Tree.ofValue name v').outline = (Tree.ofValue name v).outline := by
    rw [← Tree.outline_ofValue_blanked name v', hstrings, Tree.outline_ofValue_blanked]
  -- Legality of names is a matter of the outline.
  have hlegal : (Tree.ofValue name v').legal = true := by
    rw [← Tree.legal_outline, houtline, Tree.legal_outline]
    exact (exists_document_iff name v).1 ⟨out, h⟩
  obtain ⟨out', hout'⟩ := (exists_document_iff name v').2 hlegal
  obtain ⟨t', ht', -⟩ := read_document hout'
  refine ⟨out', t', hout', ht', ?_⟩
  rw [outline_of_read_document hout' ht', houtline, outline_of_read_document h ht]

/-- A value of every kind of shape, with texts that look like markup. -/
def markupLikeValue : Json :=
  .ofMembers [("#text", .str " </r><r> "), ("-a", .str "\"/>"), ("-b", .null),
    ("-c", .arr [.ofInt 1, .str "</r>"]), ("b", .arr [.null, .arr [.bool true]]), ("c", .arr []),
    ("d", .ofMembers [("#text", .ofMembers [("k", .bool false)]), ("-e", .ofInt (-3))]),
    ("e", .ofInt 7)]

/-- The tree that is read, texts up to spaces and line ends around them. -/
def markupLikeTree : Tree :=
  .element "r" [("a", "\"/>"), ("b", ""), ("c", "[1,\"</r>\"]")] "</r><r>"
    [.element "b" [] "" [],
      .element "b" [] "" [.element "member" [] "true" []],
      .element "d" [("e", "-3")] "\x7b\"k\":false\x7d" [],
      .element "e" [] "7" []]

theorem trimmed_markupLikeValue :
    (Tree.ofValue "r" markupLikeValue).trimmed = markupLikeTree := by
  rfl

theorem document_reads_back_markupLikeValue :
    ∃ out, document "r" markupLikeValue = .ok out ∧
      ∃ t, read out = some t ∧ t.trimmed = markupLikeTree ∧
        ∀ v' : Json, v'.blanked = markupLikeValue.blanked →
          ∃ out' t', document "r" v' = .ok out' ∧ read out' = some t' ∧
            t'.outline = t.outline := by
  obtain ⟨out, hout⟩ := (exists_document_iff "r" markupLikeValue).2 (by decide +kernel)
  obtain ⟨t, ht, htrimmed, hothers⟩ := document_reads_back "r" markupLikeValue out hout
  exact ⟨out, hout, t, ht, htrimmed.trans trimmed_markupLikeValue, hothers⟩

/-- An end tag does not close an element of another name. -/
example : (read "<a><b>&lt;</a></b>").isNone = true := by decide +kernel

end CloudStub.Xml
