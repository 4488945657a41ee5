import CloudStub.Proofs.Xml.Markup

/-!
# Written elements as characters

The characters of a written element, from its first `<` to its last `>`.  Every line but the first
of a document stands behind a line end and its indentation, so the lines inside an element are the
concatenation of `Line.chars`.

## Main Definitions

- `Line.chars`: a line with the line end in front of it
- `Markup.inside`, `Markup.closing`: an element behind its name, cut where its end begins
- `Markup.chars`: an element

## Main Statements

- `Markup.flatMap_lines`: the lines of an element are its characters behind an indentation
- `Writes.text_eq_ok_iff`: which text a step writes that writes an element, and when it does
- `document_eq_ok_iff`: the same for a document

## Design Notes

What stands inside an element does not depend on the name of the element (`inside_ofValue`).  The
name occurs in front of it and, unless the element is an empty tag, once more behind it.
-/

namespace CloudStub.Xml

/-- A text with its special characters written as entities. -/
def escaped (text : String) : List Char := text.toList.flatMap escapeChar

@[simp]
theorem toList_escape (text : String) : (escape text).toList = escaped text := by
  simp [escape, escaped]

/-- The indentation of a line. -/
def blanks (depth : Nat) : List Char := (Writer.margin depth).toList

@[simp]
theorem blanks_zero : blanks 0 = [] := rfl

theorem mem_blanks {depth : Nat} {c : Char} (h : c ∈ blanks depth) : c = ' ' := by
  simp only [blanks, Writer.margin, String.toList_join, List.mem_flatMap,
    List.mem_replicate] at h
  obtain ⟨s, ⟨-, rfl⟩, hc⟩ := h
  simpa [indent] using hc

/-- A line with the line end in front of it. -/
def Line.chars (l : Line) : List Char := '\n' :: (blanks l.depth ++ l.content.toList)

theorem toList_addTo {out : String} (h : out ≠ "") (l : Line) :
    (l.addTo out).toList = out.toList ++ l.chars := by
  simp [Line.addTo, Line.chars, blanks, h]

theorem addTo_ne_empty (out : String) {l : Line} (h : l.content ≠ "") : l.addTo out ≠ "" := by
  simp [Line.addTo, h]

theorem toList_foldl_addTo {out : String} (h : out ≠ "") (ls : List Line) :
    (ls.foldl Line.addTo out).toList = out.toList ++ ls.flatMap Line.chars := by
  induction ls generalizing out with
  | nil => simp
  | cons l rest ih =>
    have hne : l.addTo out ≠ "" := by
      intro he
      have := toList_addTo h l
      simp [he, Line.chars] at this
    rw [List.foldl_cons, ih hne, toList_addTo h]
    simp

namespace Markup

/-- The attributes as they stand in a tag. -/
def attributeChars : List (String × String) → List Char
  | [] => []
  | (name, value) :: rest =>
    ' ' :: (name.toList ++ '=' :: '"' :: (escaped value ++ '"' :: attributeChars rest))

@[simp]
theorem toList_attributeText (attributes : List (String × String)) :
    (attributeText attributes).toList = attributeChars attributes := by
  induction attributes with
  | nil => rfl
  | cons a rest ih => simp [attributeText, attributeChars, ih]

/-- The lines between the tags of an element that is written as a block. -/
def blockChars (depth : Nat) (own : Option String) (children : List Markup) : List Char :=
  (ownLines depth own).flatMap Line.chars ++ (allLines depth children).flatMap Line.chars

/-- What stands behind the name of an element, cut where the end of the element begins. -/
def inside (depth : Nat) : Markup → List Char
  | .empty _ attributes => attributeChars attributes
  | .text _ attributes body => attributeChars attributes ++ '>' :: escaped body
  | .block _ attributes own children =>
    attributeChars attributes ++
      '>' :: (blockChars (depth + 1) own children ++ '\n' :: blanks depth)

/-- The end of an element. -/
def closing : Markup → List Char
  | .empty _ _ => ['/', '>']
  | .text name _ _ => '<' :: '/' :: (name.toList ++ ['>'])
  | .block name _ _ _ => '<' :: '/' :: (name.toList ++ ['>'])

/-- An element. -/
def chars (depth : Nat) (m : Markup) : List Char :=
  '<' :: (m.name.toList ++ (m.inside depth ++ m.closing))

theorem chars_block (depth : Nat) (name : String) (attributes : List (String × String))
    (own : Option String) (children : List Markup) :
    (block name attributes own children).chars depth =
      '<' :: (name.toList ++ (attributeChars attributes ++
        '>' :: (blockChars (depth + 1) own children ++ '\n' :: blanks depth) ++
          '<' :: '/' :: (name.toList ++ ['>']))) := rfl

/-- The lines of an element are its characters behind a line end and an indentation. -/
theorem flatMap_lines (depth : Nat) (m : Markup) :
    (m.lines depth).flatMap Line.chars = '\n' :: (blanks depth ++ m.chars depth) := by
  cases m <;>
    simp [lines, chars, name, inside, closing, blockChars, startTag, endTag, Line.chars]

/-- What stands inside the element of a value does not depend on the name of the element. -/
theorem inside_ofValue (depth : Nat) (a b : String) (v : Json) :
    (ofValue a v).inside depth = (ofValue b v).inside depth := by
  cases v with
  | obj members =>
    unfold ofValue
    split
    · rfl
    · split <;> rfl
  | _ => rfl

/-- The text of a writer whose first lines are those of an element. -/
theorem toList_foldl_lines (depth : Nat) (m : Markup) (ls : List Line) :
    ((m.lines depth ++ ls).foldl Line.addTo "").toList =
      blanks depth ++ m.chars depth ++ ls.flatMap Line.chars := by
  -- The first line meets an empty writer, so it has no line end in front.
  have hfirst : ∀ l rest, l.content ≠ "" →
      '\n' :: ((l :: rest).foldl Line.addTo "").toList = (l :: rest).flatMap Line.chars := by
    intro l rest hl
    rw [List.foldl_cons, toList_foldl_addTo (addTo_ne_empty "" hl)]
    simp [Line.addTo, Line.chars, blanks]
  have hlines : '\n' :: ((m.lines depth ++ ls).foldl Line.addTo "").toList =
      (m.lines depth ++ ls).flatMap Line.chars := by
    cases m <;> exact hfirst _ _ (by simp [startTag])
  rw [List.flatMap_append, flatMap_lines] at hlines
  simpa using hlines

end Markup

/-- A result that is known by its characters exists as soon as it may. -/
theorem exists_ok_iff {ε : Type} {x : Except ε String} {legal : Bool} {cs : List Char}
    (h : ∀ out, x = .ok out ↔ legal = true ∧ out.toList = cs) :
    (∃ out, x = .ok out) ↔ legal = true := by
  constructor
  · rintro ⟨out, hout⟩
    exact ((h out).1 hout).1
  · intro hlegal
    exact ⟨String.ofList cs, (h _).2 ⟨hlegal, String.toList_ofList⟩⟩

/-- A step that writes an element yields its characters, unless the element has an illegal name. -/
theorem Writes.text_eq_ok_iff {step : Write Unit} {mk : Markup}
    (h : Writes step mk.legal fun d => mk.lines d) (out : String) :
    step.text = .ok out ↔ mk.legal = true ∧ out.toList = mk.chars 0 := by
  unfold Write.text
  cases hlegal : mk.legal with
  | true =>
    have htext := mk.toList_foldl_lines 0 []
    simp only [List.append_nil, List.flatMap_nil, blanks_zero, List.nil_append] at htext
    rw [h.ok hlegal]
    simp [Writer.addLines, Writer.empty, ← htext, String.toList_inj, eq_comm]
  | false =>
    obtain ⟨e, w', he⟩ := h.error hlegal Writer.empty
    simp [he]

/-- A document is the element of its value, unless that has an illegal name. -/
theorem document_eq_ok_iff (name : String) (v : Json) (out : String) :
    document name v = .ok out ↔
      (Markup.ofValue name v).legal = true ∧ out.toList = (Markup.ofValue name v).chars 0 :=
  (Writer.root_writes name v).text_eq_ok_iff out

end CloudStub.Xml
