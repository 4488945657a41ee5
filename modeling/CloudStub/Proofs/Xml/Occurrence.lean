import CloudStub.Proofs.Text.Replacement
import CloudStub.Proofs.Xml.Characters
import CloudStub.Proofs.Xml.Tree

/-!
# Occurrences of a marker in a written element

A marker is a text of capital letters and underscores.  None of the characters that a writer adds
belongs to a marker: no bracket, quote, blank or line end, and no character of an entity.  So a
marker occurs inside a written element exactly when it occurs in one of the texts that the element
holds (`Markup.infix_inside_iff`).

## Main Definitions

- `isMarkerChar`, `Marker`: capital letters and underscores, and texts of them
- `Occurs`: a piece occurs in one of several texts

## Main Statements

- `infix_escaped_iff`: escaping neither makes nor breaks an occurrence
- `Markup.occurs_lines_iff`: occurrences in the lines of an element
- `Markup.infix_inside_iff`: occurrences inside an element
-/

namespace CloudStub.Xml

/-- Capital letters and underscores. -/
def isMarkerChar (c : Char) : Bool := c.isUpper || c == '_'

/-- A text of capital letters and underscores. -/
structure Marker (m : List Char) : Prop where
  /-- The text is not empty. -/
  ne_nil : m ≠ []
  /-- Every character is a capital letter or an underscore. -/
  plain : m.all isMarkerChar = true

variable {m : List Char}

theorem Marker.notMem (hm : Marker m) {c : Char} (hc : isMarkerChar c = false) : c ∉ m := by
  intro h
  have hplain := List.all_eq_true.1 hm.plain c h
  rw [hc] at hplain
  cases hplain

/-- A character that belongs to no marker separates what stands around it. -/
theorem Marker.infix_cons_iff (hm : Marker m) {c : Char} (hc : isMarkerChar c = false)
    (l r : List Char) : m <:+: l ++ c :: r ↔ m <:+: l ∨ m <:+: r :=
  Cut.infix_append_cons_iff (hm.notMem hc) l r

theorem Marker.not_infix_of_any (hm : Marker m) {l : List Char} (hl : l.any isMarkerChar = false) :
    ¬ m <:+: l := by
  intro h
  obtain ⟨c, rest, rfl⟩ := List.exists_cons_of_ne_nil hm.ne_nil
  have hc : isMarkerChar c = false := by
    simpa using List.any_eq_false.1 hl c (h.subset (List.mem_cons_self ..))
  exact hm.notMem hc (List.mem_cons_self ..)

/-- Several characters in a row that belong to no marker separate like one. -/
theorem Marker.infix_separated_iff (hm : Marker m) {s : List Char} (hs : s ≠ [])
    (hplain : s.any isMarkerChar = false) (l r : List Char) :
    m <:+: l ++ (s ++ r) ↔ m <:+: l ∨ m <:+: r := by
  induction s generalizing l with
  | nil => exact absurd rfl hs
  | cons c rest ih =>
    rw [List.any_cons, Bool.or_eq_false_iff] at hplain
    rw [List.cons_append, hm.infix_cons_iff hplain.1]
    cases rest with
    | nil => rfl
    | cons b rest =>
      have hrest := ih (by simp) hplain.2 []
      rw [List.nil_append] at hrest
      rw [hrest]
      simp [hm.ne_nil]

/-- Escaping keeps the characters of markers; what it writes for others belongs to no marker. -/
theorem escapeChar_eq (c : Char) :
    escapeChar c = [c] ∨
      isMarkerChar c = false ∧ escapeChar c ≠ [] ∧ (escapeChar c).any isMarkerChar = false := by
  unfold escapeChar
  split
  · subst c; exact Or.inr (by decide)
  split
  · subst c; exact Or.inr (by decide)
  split
  · subst c; exact Or.inr (by decide)
  split
  · subst c; exact Or.inr (by decide)
  split
  · subst c; exact Or.inr (by decide)
  · exact Or.inl rfl

/-- Escaping neither makes nor breaks an occurrence, whatever stands in front of the text. -/
theorem infix_append_escaped_iff (hm : Marker m) (front text : List Char) :
    m <:+: front ++ text.flatMap escapeChar ↔ m <:+: front ++ text := by
  induction text generalizing front with
  | nil => simp
  | cons c rest ih =>
    rw [List.flatMap_cons]
    rcases escapeChar_eq c with hc | ⟨hc, hne, hplain⟩
    · -- A character that is kept joins the text in front.
      have hrest := ih (front ++ [c])
      simpa [hc] using hrest
    · -- Any other separates, as does its written form.
      have hrest := ih []
      rw [List.nil_append, List.nil_append] at hrest
      rw [hm.infix_separated_iff hne hplain, hm.infix_cons_iff hc, hrest]

theorem infix_escaped_iff (hm : Marker m) (text : String) :
    m <:+: escaped text ↔ m <:+: text.toList := by
  simpa [escaped] using infix_append_escaped_iff hm [] text.toList

/-- The indentation of a line holds no part of a marker. -/
theorem infix_blanks_append_iff (hm : Marker m) (depth : Nat) (l : List Char) :
    m <:+: blanks depth ++ l ↔ m <:+: l := by
  have hblanks : (blanks depth).any isMarkerChar = false := by
    rw [List.any_eq_false]
    intro c hc
    rw [mem_blanks hc]
    decide
  cases hdepth : blanks depth with
  | nil => rfl
  | cons b rest =>
    have h := hm.infix_separated_iff (s := blanks depth) (by simp [hdepth]) hblanks [] l
    rw [List.nil_append, hdepth] at h
    rw [h]
    simp [hm.ne_nil]

/-! ## Occurrences in several texts -/

/-- A piece occurs in one of several texts. -/
def Occurs (m : List Char) (texts : List String) : Prop := ∃ s ∈ texts, m <:+: s.toList

instance (m : List Char) (texts : List String) : Decidable (Occurs m texts) :=
  inferInstanceAs (Decidable (∃ s ∈ texts, m <:+: s.toList))

@[simp]
theorem occurs_nil (m : List Char) : ¬ Occurs m [] := by
  simp [Occurs]

@[simp]
theorem occurs_cons (m : List Char) (s : String) (texts : List String) :
    Occurs m (s :: texts) ↔ m <:+: s.toList ∨ Occurs m texts := by
  simp [Occurs]

@[simp]
theorem occurs_append (m : List Char) (a b : List String) :
    Occurs m (a ++ b) ↔ Occurs m a ∨ Occurs m b := by
  simp [Occurs, or_and_right, exists_or]

/-- Occurrences in lines that follow other text. -/
theorem infix_append_lines_iff (hm : Marker m) (front : List Char) (ls : List Line) :
    m <:+: front ++ ls.flatMap Line.chars ↔
      m <:+: front ∨ Occurs m (ls.map Line.content) := by
  induction ls generalizing front with
  | nil => simp
  | cons l rest ih =>
    -- The line end in front of a line separates it from what stands before.
    have hsplit : front ++ (l :: rest).flatMap Line.chars =
        front ++ '\n' :: ((blanks l.depth ++ l.content.toList) ++ rest.flatMap Line.chars) := by
      simp [Line.chars]
    rw [hsplit, hm.infix_cons_iff (by decide), ih, infix_blanks_append_iff hm]
    simp

namespace Markup

/-- Occurrences in a tag up to a character behind its attributes. -/
theorem infix_attributes_iff (hm : Marker m) (front : List Char)
    (attributes : List (String × String)) {c : Char} (hc : isMarkerChar c = false)
    (r : List Char) :
    m <:+: front ++ (attributeChars attributes ++ c :: r) ↔
      m <:+: front ∨ Occurs m (attributes.flatMap fun a => [a.1, a.2]) ∨ m <:+: r := by
  induction attributes generalizing front with
  | nil => simpa [attributeChars] using hm.infix_cons_iff hc front r
  | cons a rest ih =>
    -- Blank, equals sign and quotes separate key and value from their surroundings.
    have hsplit : front ++ (attributeChars (a :: rest) ++ c :: r) =
        front ++ ' ' :: (a.1.toList ++ (['=', '"'] ++ (escaped a.2 ++
          '"' :: (attributeChars rest ++ c :: r)))) := by
      simp [attributeChars]
    have hrest := ih []
    simp only [List.nil_append, List.infix_nil, hm.ne_nil, false_or] at hrest
    rw [hsplit, hm.infix_cons_iff (by decide), hm.infix_separated_iff (by simp) (by decide),
      hm.infix_cons_iff (by decide), infix_escaped_iff hm, hrest]
    simp [or_assoc]

/-- Occurrences in a tag. -/
theorem infix_startTag_iff (hm : Marker m) (name : String) (attributes : List (String × String))
    {c : Char} (hc : isMarkerChar c = false) (r : List Char) :
    m <:+: '<' :: (name.toList ++ (attributeChars attributes ++ c :: r)) ↔
      m <:+: name.toList ∨ Occurs m (attributes.flatMap fun a => [a.1, a.2]) ∨ m <:+: r := by
  have h := hm.infix_cons_iff (c := '<') (by decide) []
    (name.toList ++ (attributeChars attributes ++ c :: r))
  rw [List.nil_append] at h
  rw [h, infix_attributes_iff hm name.toList attributes hc]
  simp [hm.ne_nil]

theorem infix_append_endTag_iff (hm : Marker m) (front : List Char) (name : String) :
    m <:+: front ++ (endTag name).toList ↔ m <:+: front ∨ m <:+: name.toList := by
  have hopen := hm.infix_separated_iff (s := ['<', '/']) (by simp) (by decide) front
    (name.toList ++ ['>'])
  have hclose := hm.infix_cons_iff (c := '>') (by decide) name.toList []
  rw [hclose] at hopen
  simpa [endTag, hm.ne_nil] using hopen

theorem occurs_ownLines_iff (hm : Marker m) (depth : Nat) (own : Option String) :
    Occurs m ((ownLines depth own).map Line.content) ↔ m <:+: (own.getD "").toList := by
  cases own with
  | none => simp [ownLines, hm.ne_nil]
  | some body => simp [ownLines, infix_escaped_iff hm]

theorem occurs_lines_empty_iff (hm : Marker m) (depth : Nat) (name : String)
    (attributes : List (String × String)) :
    Occurs m (((empty name attributes).lines depth).map Line.content) ↔
      Occurs m (name :: (empty name attributes).tree.inner) := by
  have hend : ¬ m <:+: ['>'] := hm.not_infix_of_any (by decide)
  have htag := infix_startTag_iff hm name attributes (c := '/') (by decide) ['>']
  simpa [lines, tree, Tree.inner, Tree.allInner, hend, hm.ne_nil] using htag

theorem occurs_lines_text_iff (hm : Marker m) (depth : Nat) (name : String)
    (attributes : List (String × String)) (body : String) :
    Occurs m (((text name attributes body).lines depth).map Line.content) ↔
      Occurs m (name :: (text name attributes body).tree.inner) := by
  have htag := infix_startTag_iff hm name attributes (c := '>') (by decide)
    (escaped body ++ (endTag name).toList)
  rw [infix_append_endTag_iff hm, infix_escaped_iff hm] at htag
  have hline : (startTag name attributes ++ escape body ++ endTag name).toList =
      '<' :: (name.toList ++
        (attributeChars attributes ++ '>' :: (escaped body ++ (endTag name).toList))) := by
    simp [startTag]
  simp only [lines, tree, Tree.inner, Tree.allInner, List.map_cons, List.map_nil, occurs_cons,
    occurs_append, occurs_nil, or_false, hline]
  rw [htag]
  -- The name occurs in both tags.
  constructor
  · rintro (h | h | h | h)
    · exact Or.inl h
    · exact Or.inr (Or.inl h)
    · exact Or.inr (Or.inr h)
    · exact Or.inl h
  · rintro (h | h | h)
    · exact Or.inl h
    · exact Or.inr (Or.inl h)
    · exact Or.inr (Or.inr (Or.inl h))

/-- A block, given what its children hold. -/
theorem occurs_lines_block_iff (hm : Marker m) (depth : Nat) (name : String)
    (attributes : List (String × String)) (own : Option String) {children : List Markup}
    (hchildren : Occurs m ((allLines (depth + 1) children).map Line.content) ↔
      Occurs m (Tree.allInner (allTrees children))) :
    Occurs m (((block name attributes own children).lines depth).map Line.content) ↔
      Occurs m (name :: (block name attributes own children).tree.inner) := by
  have htag := infix_startTag_iff hm name attributes (c := '>') (by decide) []
  have hend := infix_append_endTag_iff hm [] name
  have hown := occurs_ownLines_iff hm (depth + 1) own
  have hline : (startTag name attributes).toList =
      '<' :: (name.toList ++ (attributeChars attributes ++ ['>'])) := by
    simp [startTag]
  simp only [List.nil_append, List.infix_nil, hm.ne_nil, false_or, or_false] at htag hend
  simp only [lines, tree, Tree.inner, List.map_cons, List.map_nil, List.map_append, occurs_cons,
    occurs_append, occurs_nil, or_false, hline]
  rw [htag, hend, hown, hchildren]
  constructor
  · rintro ((h | h) | (h | h) | h)
    · exact Or.inl h
    · exact Or.inr (Or.inl h)
    · exact Or.inr (Or.inr (Or.inl h))
    · exact Or.inr (Or.inr (Or.inr h))
    · exact Or.inl h
  · rintro (h | h | h | h)
    · exact Or.inl (Or.inl h)
    · exact Or.inl (Or.inr h)
    · exact Or.inr (Or.inl (Or.inl h))
    · exact Or.inr (Or.inl (Or.inr h))

mutual

/-- A marker occurs in the lines of an element exactly when it occurs in the name of the element or
in a text inside it. -/
theorem occurs_lines_iff (hm : Marker m) (depth : Nat) : (mk : Markup) →
    (Occurs m ((mk.lines depth).map Line.content) ↔ Occurs m (mk.name :: mk.tree.inner))
  | .empty name attributes => occurs_lines_empty_iff hm depth name attributes
  | .text name attributes body => occurs_lines_text_iff hm depth name attributes body
  | .block name attributes own children =>
    occurs_lines_block_iff hm depth name attributes own
      (occurs_allLines_iff hm (depth + 1) children)

theorem occurs_allLines_iff (hm : Marker m) (depth : Nat) : (ms : List Markup) →
    (Occurs m ((allLines depth ms).map Line.content) ↔ Occurs m (Tree.allInner (allTrees ms)))
  | [] => by simp [allLines, allTrees, Tree.allInner]
  | mk :: rest => by
    rw [allLines, allTrees, List.map_append, occurs_append, occurs_lines_iff hm depth mk,
      occurs_allLines_iff hm depth rest]
    cases mk <;> simp [tree, Tree.allInner, Markup.name, or_assoc]

end

/-- A marker occurs inside an element exactly when it occurs in one of the texts there. -/
theorem infix_inside_iff (hm : Marker m) (depth : Nat) (mk : Markup) :
    m <:+: mk.inside depth ↔ Occurs m mk.tree.inner := by
  have hattributes : ∀ attributes {c : Char}, isMarkerChar c = false → ∀ r,
      (m <:+: attributeChars attributes ++ c :: r ↔
        Occurs m (attributes.flatMap fun a => [a.1, a.2]) ∨ m <:+: r) := by
    intro attributes c hc r
    simpa [hm.ne_nil] using infix_attributes_iff hm [] attributes hc r
  cases mk with
  | empty name attributes =>
    -- The attributes of an empty tag end where the tag does.
    have h := hattributes attributes (c := '/') (by decide) []
    rw [hm.infix_cons_iff (by decide)] at h
    simpa [inside, tree, Tree.inner, Tree.allInner, hm.ne_nil] using h
  | text name attributes body =>
    have h := hattributes attributes (c := '>') (by decide) (escaped body)
    rw [infix_escaped_iff hm] at h
    simpa [inside, tree, Tree.inner, Tree.allInner] using h
  | block name attributes own children =>
    have hlines := infix_append_lines_iff hm []
      (ownLines (depth + 1) own ++ allLines (depth + 1) children)
    have hblanks := infix_blanks_append_iff hm depth []
    simp only [List.nil_append, List.append_nil, List.infix_nil, hm.ne_nil, false_or, iff_false,
      List.map_append, occurs_append, occurs_ownLines_iff hm, occurs_allLines_iff hm,
      List.flatMap_append] at hlines hblanks
    rw [inside, hattributes attributes (by decide), hm.infix_cons_iff (by decide), blockChars,
      hlines]
    simp [tree, Tree.inner, hblanks]

end Markup

end CloudStub.Xml
