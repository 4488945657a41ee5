import CloudStub.Proofs.Xml.Envelope

/-!
# Lines and open elements

The writer counts the open elements itself: opening a tag adds one, closing a tag takes one away
unless the count is zero already.  This module compares the count with the tags that are written.
Each line stands behind two spaces for every element that is open around it, every step that writes
a value leaves as many elements open as it found, and a tag is closed only where one is open.

## Main Definitions

- `Row`: a line without its indentation
- `Row.next`: the elements open behind a line
- `LaidOut`: lines indented by the elements that are open around them
- `Writer.Extends`: a writer behind another one, with such lines in between
- `Writer.ClosesOpen`: the ways to close a tag that agree as long as an element is open

## Main Statements

- `LaidOut.markup`: the lines of an element are indented by the elements around them
- `Writes.extension`: a step that writes elements extends the writer
- `Writer.singleWith_eq`: how a tag would be closed where none is open has no influence
- `Writer.writes_indented`: both for everything that is written

## Design Notes

The elements open around a line are those that are open before the line and behind it: an end tag
stands as far to the left as its start tag.

The count of a writer does not show whether it was cut off at zero.  But the closing of a tag is a
parameter of the writer, and what is written does not depend on what it does at zero.
-/

namespace CloudStub.Xml

/-! ## Rows -/

/-- A line without its indentation. -/
inductive Row where
  /-- A start tag whose element stays open. -/
  | startTag (name : String) (attributes : List (String × String))
  /-- An end tag. -/
  | endTag (name : String)
  /-- An element on one line: an empty tag, or a text between its tags. -/
  | element (name : String) (attributes : List (String × String)) (body : Option String)
  /-- A text of the element around it. -/
  | ownText (body : String)

namespace Row

/-- What stands on the line. -/
def content : Row → String
  | .startTag name attributes => Markup.startTag name attributes
  | .endTag name => Markup.endTag name
  | .element name attributes none => "<" ++ name ++ Markup.attributeText attributes ++ "/>"
  | .element name attributes (some body) =>
    Markup.startTag name attributes ++ escape body ++ Markup.endTag name
  | .ownText body => escape body

/-- Whether the names on the line are legal. -/
def legal : Row → Bool
  | .startTag name attributes => isName name && Markup.legalAttributes attributes
  | .endTag name => isName name
  | .element name attributes _ => isName name && Markup.legalAttributes attributes
  | .ownText _ => true

/-- The elements open behind the line, the innermost first: an end tag closes the innermost one,
which has to have its name, and text stands inside of elements only. -/
def next : Row → List String → Option (List String)
  | .startTag name _, openNames => some (name :: openNames)
  | .endTag name, top :: openNames => if top = name then some openNames else none
  | .endTag _, [] => none
  | .element .., openNames => some openNames
  | .ownText _, top :: openNames => some (top :: openNames)
  | .ownText _, [] => none

end Row

/-- The lines of rows that close every open element, with `depth` further elements around them.  A
line is indented by the elements that are open before it and behind it. -/
inductive LaidOut (depth : Nat) : List String → List Row → List Line → Prop where
  /-- No rows, when nothing is open. -/
  | done : LaidOut depth [] [] []
  /-- A row in front of others. -/
  | cons (row : Row) (before : List String) {behind : List String} {rows : List Row}
    {lines : List Line} (hlegal : row.legal = true) (hnext : row.next before = some behind)
    (h : LaidOut depth behind rows lines) :
    LaidOut depth before (row :: rows)
      (⟨depth + min before.length behind.length, row.content⟩ :: lines)

/-! ## Elements -/

namespace Markup

mutual

/-- The rows of an element. -/
def rows : Markup → List Row
  | .empty name attributes => [.element name attributes none]
  | .text name attributes body => [.element name attributes (some body)]
  | .block name attributes own children =>
    .startTag name attributes :: (own.toList.map .ownText ++ allRows children ++ [.endTag name])

/-- The rows of several elements. -/
def allRows : List Markup → List Row
  | [] => []
  | m :: rest => rows m ++ allRows rest

end

end Markup

namespace LaidOut

variable {depth : Nat} {openNames : List String} {rows : List Row} {lines : List Line}

/-- A row that leaves open what is open is indented by that. -/
theorem cons_level (row : Row) (hlegal : row.legal = true)
    (hnext : row.next openNames = some openNames) (h : LaidOut depth openNames rows lines) :
    LaidOut depth openNames (row :: rows)
      (⟨depth + openNames.length, row.content⟩ :: lines) := by
  have hrow := h.cons row openNames hlegal hnext
  rwa [Nat.min_self] at hrow

/-- The text in front of the children of an element. -/
theorem ownLines (own : Option String) (name : String)
    (h : LaidOut depth (name :: openNames) rows lines) :
    LaidOut depth (name :: openNames) (own.toList.map .ownText ++ rows)
      (Markup.ownLines (depth + (name :: openNames).length) own ++ lines) := by
  cases own with
  | none => exact h
  | some body => exact h.cons_level (.ownText body) rfl rfl

mutual

/-- The lines of an element are indented by the elements around them. -/
theorem markup : (m : Markup) → m.legal = true →
    ∀ {openNames : List String} {rows : List Row} {lines : List Line},
      LaidOut depth openNames rows lines →
      LaidOut depth openNames (m.rows ++ rows) (m.lines (depth + openNames.length) ++ lines)
  | .empty name attributes, hlegal, _, _, _, h =>
    h.cons_level (.element name attributes none) hlegal rfl
  | .text name attributes body, hlegal, _, _, _, h =>
    h.cons_level (.element name attributes (some body)) hlegal rfl
  | .block name attributes own children, hlegal, openNames, rows, lines, h => by
    rw [Markup.legal, Bool.and_eq_true, Bool.and_eq_true] at hlegal
    have hend := h.cons (.endTag name) (name :: openNames) hlegal.1.1 (if_pos rfl)
    have hinside := (markups children hlegal.2 hend).ownLines own
    have hstart := hinside.cons (.startTag name attributes) openNames
      (by rw [Row.legal, hlegal.1.1, hlegal.1.2]; rfl) rfl
    have hmin : min (name :: openNames).length openNames.length = openNames.length := by simp
    rw [Nat.min_comm openNames.length, hmin] at hstart
    simpa [Markup.rows, Markup.lines, hmin, Row.content, Nat.add_assoc] using hstart

theorem markups : (ms : List Markup) → Markup.allLegal ms = true →
    ∀ {openNames : List String} {rows : List Row} {lines : List Line},
      LaidOut depth openNames rows lines →
      LaidOut depth openNames (Markup.allRows ms ++ rows)
        (Markup.allLines (depth + openNames.length) ms ++ lines)
  | [], _, _, _, _, h => h
  | m :: rest, hlegal, _, _, _, h => by
    rw [Markup.allLegal, Bool.and_eq_true] at hlegal
    have hm := markup m hlegal.1 (markups rest hlegal.2 h)
    rwa [← List.append_assoc, ← List.append_assoc] at hm

end

end LaidOut

/-! ## What a step adds -/

/-- A line with the line end in front of it, behind two spaces for each element around it. -/
def Line.indented (l : Line) : List Char :=
  '\n' :: (List.replicate (2 * l.depth) ' ' ++ l.content.toList)

theorem blanks_eq_replicate (depth : Nat) : blanks depth = List.replicate (2 * depth) ' ' := by
  induction depth with
  | zero => rfl
  | succ depth ih =>
    have hsplit : blanks (depth + 1) = ' ' :: ' ' :: blanks depth := by
      simp [blanks, Writer.margin, List.replicate_succ, indent]
    rw [hsplit, ih, Nat.mul_succ, List.replicate_succ, List.replicate_succ]

theorem Line.chars_eq_indented : Line.chars = Line.indented := by
  funext l
  rw [chars, indented, blanks_eq_replicate]

/-- A writer behind another one: as many elements are open, and lines are added that are indented
by the elements around them and leave none of their own open.  At the very beginning the first line
has no line end in front. -/
structure Writer.Extends (w w' : Writer) : Prop where
  /-- As many elements are open. -/
  depth : w'.depth = w.depth
  /-- Lines are added. -/
  lines : ∃ rows lines, LaidOut w.depth [] rows lines ∧
    w'.out.toList = w.out.toList ++
      (if w.out = "" then (lines.flatMap Line.indented).tail else lines.flatMap Line.indented)

/-- The first line of an element is not empty. -/
theorem Markup.head_lines (depth : Nat) (m : Markup) :
    ∃ l rest, m.lines depth = l :: rest ∧ l.content ≠ "" := by
  cases m with
  | empty name attributes => exact ⟨_, _, rfl, by simp⟩
  | text name attributes body => exact ⟨_, _, rfl, by simp [startTag]⟩
  | block name attributes own children => exact ⟨_, _, rfl, by simp [startTag]⟩

/-- The text behind the lines of elements. -/
theorem toList_foldl_allLines (out : String) (depth : Nat) (ms : List Markup) :
    ((Markup.allLines depth ms).foldl Line.addTo out).toList = out.toList ++
      (if out = "" then ((Markup.allLines depth ms).flatMap Line.chars).tail
        else (Markup.allLines depth ms).flatMap Line.chars) := by
  by_cases hout : out = ""
  · subst hout
    cases ms with
    | nil => rfl
    | cons m ms =>
      obtain ⟨l, rest, hlines, hcontent⟩ := m.head_lines depth
      rw [Markup.allLines, hlines, List.cons_append, List.foldl_cons,
        toList_foldl_addTo (addTo_ne_empty "" hcontent)]
      simp [Line.addTo, Line.chars, blanks]
  · rw [if_neg hout, toList_foldl_addTo hout]

namespace Writes

variable {step : Write Unit} {legal : Bool} {lines : Nat → List Line}

/-- A step that succeeds adds its lines and leaves the depth as it was. -/
theorem eq_addLines (h : Writes step legal lines) {w w' : Writer} (hrun : step.run w = .ok () w') :
    legal = true ∧ w' = w.addLines (lines w.depth) := by
  cases hlegal : legal with
  | true =>
    rw [h.ok hlegal, EStateM.Result.ok.injEq] at hrun
    exact ⟨rfl, hrun.2.symm⟩
  | false =>
    obtain ⟨e, w'', he⟩ := h.error hlegal w
    rw [he] at hrun
    cases hrun

/-- A step that writes elements extends the writer. -/
theorem extension {ms : List Markup}
    (h : Writes step (Markup.allLegal ms) fun d => Markup.allLines d ms) {w w' : Writer}
    (hrun : step.run w = .ok () w') : w.Extends w' := by
  obtain ⟨hlegal, rfl⟩ := h.eq_addLines hrun
  refine ⟨rfl, Markup.allRows ms, Markup.allLines w.depth ms, ?_, ?_⟩
  · simpa using LaidOut.markups ms hlegal (@LaidOut.done w.depth)
  · rw [← Line.chars_eq_indented]
    exact toList_foldl_allLines w.out w.depth ms

/-- A step that writes one element, seen as a step that writes several. -/
theorem singleton {m : Markup} (h : Writes step m.legal fun d => m.lines d) :
    Writes step (Markup.allLegal [m]) fun d => Markup.allLines d [m] :=
  h.congr (by simp [Markup.allLegal]) fun d => by simp [Markup.allLines]

end Writes

namespace Writer

/-- The elements that a value stands for under a key. -/
def markups (name : String) : Json → List Markup
  | .arr items => Markup.ofItems name items
  | v => [Markup.ofValue name v]

theorem value_writes (name : String) (v : Json) :
    Writes (value name v) (Markup.allLegal (markups name v))
      fun d => Markup.allLines d (markups name v) := by
  cases v with
  | arr items => exact elements_writes name items
  | _ => exact (single_writes name _).singleton

/-! ## Closing tags -/

/-- A way to close a tag that is the usual one as long as an element is open. -/
def ClosesOpen (close : String → Write Unit) : Prop :=
  ∀ name w, 0 < w.depth → (close name).run w = (closeTag name).run w

/-- Closing may even fail where no element is open. -/
example : ClosesOpen fun name w => if w.depth = 0 then .error ⟨name⟩ w else closeTag name w :=
  fun _ _ hdepth => if_neg (Nat.ne_of_gt hdepth)

variable {close : String → Write Unit}

/-- Behind a step that leaves the depth as it was, a tag is closed where one is open. -/
theorem close_nested (hclose : ClosesOpen close) {a : Write Unit} {legal : Bool}
    {lines : Nat → List Line} (ha : Writes a legal lines) (name : String) :
    (do nest (· + 1); a; close name) = (do nest (· + 1); a; closeTag name) := by
  funext w
  have hdepth : ∀ w', a.run ⟨w.out, w.depth + 1⟩ = .ok () w' → 0 < w'.depth := by
    intro w' hrun
    obtain ⟨-, rfl⟩ := ha.eq_addLines hrun
    exact Nat.succ_pos _
  show EStateM.run _ w = EStateM.run _ w
  simp only [nest, EStateM.run_bind, EStateM.run_modify]
  cases hrun : a.run ⟨w.out, w.depth + 1⟩ with
  | ok _ w' => exact hclose name w' (hdepth w' hrun)
  | error e w' => rfl

theorem close_openTag (hclose : ClosesOpen close) {a : Write Unit} {legal : Bool}
    {lines : Nat → List Line} (ha : Writes a legal lines) (name : String) :
    (do openTag name; a; close name) = (do openTag name; a; closeTag name) := by
  simp only [openTag, bind_assoc, close_nested hclose ha name]

mutual

/-- How a tag would be closed where none is open has no influence on what is written. -/
theorem singleWith_eq (hclose : ClosesOpen close) (name : String) :
    (v : Json) → singleWith close name v = single name v
  | .null => rfl
  | .obj members => by
    have hchildren := childrenWith_eq hclose members
    have hnested := close_nested hclose
      ((ownLine_writes (ownText? members.toList)).seq (children_writes members)) name
    simp only [bind_assoc] at hnested
    unfold single singleWith
    simp only [hchildren, hnested]
  | .arr items => by
    have hitems := elementsWith_eq hclose itemName items
    unfold single singleWith
    rw [hitems, close_openTag hclose (elements_writes itemName items) name]
  | .bool b => rfl
  | .num n => rfl
  | .str s => rfl

theorem elementsWith_eq (hclose : ClosesOpen close) (name : String) :
    (items : List Json) → elementsWith close name items = elementsWith closeTag name items
  | [] => rfl
  | v :: rest => by
    rw [elementsWith, elementsWith, singleWith_eq hclose name v, elementsWith_eq hclose name rest]
    rfl

theorem childrenWith_eq (hclose : ClosesOpen close) {start : Option String} :
    (members : Dict.Behind Json start) → childrenWith close members = childrenWith closeTag members
  | .nil => rfl
  | .cons key v _ rest => by
    have hrest := childrenWith_eq hclose rest
    have hsingle := singleWith_eq hclose key v
    unfold single at hsingle
    unfold childrenWith
    rw [hrest]
    cases v with
    | arr items =>
      have hitems := elementsWith_eq hclose key items
      simp only [hitems]
    | _ => simp only [hsingle]

end

theorem rootWith_eq (hclose : ClosesOpen close) (name : String) (v : Json) :
    rootWith close name v = root name v := by
  cases v with
  | arr items =>
    rw [root, rootWith, rootWith, elementsWith_eq hclose,
      close_openTag hclose (elements_writes itemName items) name]
  | _ => exact singleWith_eq hclose name _

theorem writeEnvelopeWith_eq (hclose : ClosesOpen close) (action : String) (v : Json) :
    Response.writeEnvelopeWith close action v = Response.writeEnvelope action v := by
  have hinside := (root_writes (action ++ "Result") v).seq Response.metadata_writes
  have henvelope := close_openTag hclose hinside (action ++ "Response")
  have hmetadata := congrArg (fun step => do step; close (action ++ "Response"))
    (close_openTag hclose (textElement_writes "RequestId" Response.envelopeRequestId)
      "ResponseMetadata")
  simp only [bind_assoc] at hmetadata henvelope
  unfold Response.writeEnvelope Response.writeEnvelopeWith
  rw [rootWith_eq hclose, hmetadata, henvelope]
  rfl

/-- Whatever is written extends the writer.  No tag is closed where none is open, in a document or
in an envelope: however that would be done, the same is written.  And in the end none is open. -/
theorem writes_indented (name : String) (v : Json) :
    (∀ step ∈ [value name v, root name v, single name v, Response.writeEnvelope name v],
      ∀ w w', step.run w = .ok () w' → w.Extends w') ∧
    (∀ close, ClosesOpen close →
      rootWith close name v = root name v ∧
        Response.writeEnvelopeWith close name v = Response.writeEnvelope name v) ∧
    ∀ step ∈ [root name v, Response.writeEnvelope name v],
      ∀ w', step.run empty = .ok () w' → w'.depth = 0 := by
  have hextends : ∀ step ∈ [value name v, root name v, single name v,
      Response.writeEnvelope name v], ∀ w w', step.run w = .ok () w' → w.Extends w' := by
    simp only [List.forall_mem_cons]
    exact ⟨fun w w' h => (value_writes name v).extension h,
      fun w w' h => (root_writes name v).singleton.extension h,
      fun w w' h => (single_writes name v).singleton.extension h,
      fun w w' h => (Response.writeEnvelope_writes name v).singleton.extension h,
      fun _ h => absurd h List.not_mem_nil⟩
  refine ⟨hextends, fun close hclose => ⟨rootWith_eq hclose name v, writeEnvelopeWith_eq hclose name v⟩,
    fun step hstep w' h => ?_⟩
  refine (hextends step ?_ empty w' h).depth
  simp only [List.mem_cons, List.not_mem_nil, or_false] at hstep ⊢
  rcases hstep with rfl | rfl <;> simp

/-- A value with an attribute, a text of its own, an array in an array and an empty array. -/
def nestedValue : Json :=
  .ofMembers [("#text", .str "a\nb"), ("-k", .str "\n"), ("c", .arr [.null, .arr [.ofMembers [("d", .arr [])]]]),
    ("e", .arr [])]

/-- It is written as the second child of an element. -/
theorem writes_indented_nested :
    ∃ w', (single "r" nestedValue).run ⟨"<a>\n  <b/>", 1⟩ = .ok () w' ∧
      Extends ⟨"<a>\n  <b/>", 1⟩ w' := by
  have hlegal : (Markup.ofValue "r" nestedValue).legal = true := by decide +kernel
  have hrun := (single_writes "r" nestedValue).ok hlegal ⟨"<a>\n  <b/>", 1⟩
  exact ⟨_, hrun, (writes_indented "r" nestedValue).1 _ (by simp) _ _ hrun⟩

end Writer

end CloudStub.Xml
