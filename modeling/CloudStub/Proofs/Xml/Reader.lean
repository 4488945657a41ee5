import CloudStub.Proofs.Xml.Tree

/-!
# Reading elements

A reader for elements that knows start tags, end tags, empty tags, attributes in double quotes and
the five predefined entities, and nothing else.  It goes through a text character by character and
keeps the elements that are open; an end tag has to carry the name of the innermost one.  Text is
allowed inside elements only, and there is one root element.

## Main Definitions

- `Reader.Mode`, `Reader.State`: what has been read
- `Reader.step`: reading one character
- `read`: the tree of a text, if it is one element
- `Reader.Reads`: reading a piece of text leads from one state to another

## Main Statements

- `Reader.Reads.append`: pieces of text are read one after the other
- `Reader.Reads.flatMap`: text is taken up character by character
- `Reader.reads_name`: reading a legal name

## Design Notes

The reader is independent of the writer.  It does not know about lines and indentation, which are
text like any other, and it reads a value of an attribute as it stands.
-/

namespace CloudStub.Xml

namespace Reader

/-- An element whose end tag has not been read. -/
structure Open where
  /-- The name. -/
  name : String
  /-- The attributes. -/
  attributes : List (String × String)
  /-- The text so far. -/
  text : List Char
  /-- The children so far. -/
  children : List Tree

/-- The element when its end tag is read. -/
def Open.tree (o : Open) : Tree :=
  .element o.name o.attributes (String.ofList o.text) o.children

/-- What the reader is in the middle of. -/
inductive Mode where
  /-- Outside of tags. -/
  | content
  /-- In an entity outside of tags. -/
  | entity (letters : List Char)
  /-- Behind the bracket that opens a tag. -/
  | opened
  /-- In a start tag or an empty tag, behind its name or an attribute. -/
  | tag (name : List Char) (attributes : List (String × String))
  /-- In the name of an attribute. -/
  | key (name : List Char) (attributes : List (String × String)) (key : List Char)
  /-- Behind the equals sign of an attribute. -/
  | equals (name : List Char) (attributes : List (String × String)) (key : List Char)
  /-- In the value of an attribute. -/
  | value (name : List Char) (attributes : List (String × String)) (key value : List Char)
  /-- In an entity in the value of an attribute. -/
  | valueEntity (name : List Char) (attributes : List (String × String)) (key value : List Char)
      (letters : List Char)
  /-- Behind the slash of an empty tag. -/
  | emptyEnd (name : List Char) (attributes : List (String × String))
  /-- In an end tag. -/
  | endTag (name : List Char)

/-- What has been read. -/
structure State where
  /-- What the reader is in the middle of. -/
  mode : Mode
  /-- The open elements, the innermost first. -/
  stack : List Open
  /-- The root element, when it has ended. -/
  root : Option Tree

/-- Before anything is read. -/
def start : State := ⟨.content, [], none⟩

/-- The character that an entity stands for. -/
def entityChar (letters : List Char) : Option Char :=
  if letters = ['a', 'm', 'p'] then some '&'
  else if letters = ['l', 't'] then some '<'
  else if letters = ['g', 't'] then some '>'
  else if letters = ['q', 'u', 'o', 't'] then some '"'
  else if letters = ['a', 'p', 'o', 's'] then some '\x27'
  else none

/-- One more character of text in the innermost element. -/
def State.addText (s : State) (c : Char) : Option State :=
  match s.stack with
  | [] => none
  | o :: rest => some ⟨.content, { o with text := o.text ++ [c] } :: rest, s.root⟩

/-- One more element: a child of the innermost element, or the root. -/
def State.addElement (s : State) (t : Tree) : State :=
  match s.stack with
  | [] => ⟨.content, [], some t⟩
  | o :: rest => ⟨.content, { o with children := o.children ++ [t] } :: rest, s.root⟩

/-- The end of the innermost element, which has to have the name that its end tag carries. -/
def State.close (s : State) (name : List Char) : Option State :=
  match s.stack with
  | [] => none
  | o :: rest =>
    if o.name = String.ofList name then some (State.addElement ⟨.content, rest, s.root⟩ o.tree)
    else none

/-- A start tag. -/
def State.enter (s : State) (name : List Char) (attributes : List (String × String)) : State :=
  ⟨.content, ⟨String.ofList name, attributes, [], []⟩ :: s.stack, s.root⟩

/-- Reads one character. -/
def step (s : State) (c : Char) : Option State :=
  match s.mode with
  | .content =>
    if c = '<' then
      if s.stack.isEmpty && s.root.isSome then none else some { s with mode := .opened }
    else if c = '&' then some { s with mode := .entity [] }
    else s.addText c
  | .entity letters =>
    if c = ';' then (entityChar letters).bind s.addText
    else some { s with mode := .entity (letters ++ [c]) }
  | .opened =>
    if isNameStart c then some { s with mode := .tag [c] [] }
    else if c = '/' then some { s with mode := .endTag [] }
    else none
  | .tag name attributes =>
    if attributes.isEmpty && isNameChar c then some { s with mode := .tag (name ++ [c]) [] }
    else if c = ' ' then some { s with mode := .key name attributes [] }
    else if c = '/' then some { s with mode := .emptyEnd name attributes }
    else if c = '>' then some (s.enter name attributes)
    else none
  | .key name attributes key =>
    if (if key.isEmpty then isNameStart c else isNameChar c) then
      some { s with mode := .key name attributes (key ++ [c]) }
    else if c = '=' && !key.isEmpty then some { s with mode := .equals name attributes key }
    else none
  | .equals name attributes key =>
    if c = '"' then some { s with mode := .value name attributes key [] } else none
  | .value name attributes key value =>
    if c = '"' then
      some { s with mode := .tag name (attributes ++ [(String.ofList key, String.ofList value)]) }
    else if c = '&' then some { s with mode := .valueEntity name attributes key value [] }
    else if c = '<' then none
    else some { s with mode := .value name attributes key (value ++ [c]) }
  | .valueEntity name attributes key value letters =>
    if c = ';' then
      (entityChar letters).map fun e =>
        { s with mode := .value name attributes key (value ++ [e]) }
    else some { s with mode := .valueEntity name attributes key value (letters ++ [c]) }
  | .emptyEnd name attributes =>
    if c = '>' then some (s.addElement (.element (String.ofList name) attributes "" [])) else none
  | .endTag name =>
    if (if name.isEmpty then isNameStart c else isNameChar c) then
      some { s with mode := .endTag (name ++ [c]) }
    else if c = '>' then s.close name
    else none

/-- Reads a text from a state. -/
def run : State → List Char → Option State
  | s, [] => some s
  | s, c :: rest => (step s c).bind fun s' => run s' rest

/-- The root element, when it has ended and nothing follows. -/
def State.result (s : State) : Option Tree :=
  match s with
  | ⟨.content, [], root⟩ => root
  | _ => none

end Reader

/-- The tree of a text, if the text is one element. -/
def read (text : String) : Option Tree := (Reader.run Reader.start text.toList).bind (·.result)

namespace Reader

/-! ## Reading in pieces -/

/-- Reading a piece of text leads from one state to another. -/
def Reads (s : State) (text : List Char) (s' : State) : Prop := run s text = some s'

namespace Reads

theorem nil (s : State) : Reads s [] s := rfl

theorem cons {s s' s'' : State} {c : Char} {text : List Char} (hstep : step s c = some s')
    (h : Reads s' text s'') : Reads s (c :: text) s'' := by
  unfold Reads at h ⊢
  rw [run, hstep]
  exact h

theorem single {s s' : State} {c : Char} (hstep : step s c = some s') : Reads s [c] s' :=
  cons hstep (nil s')

theorem append {s s' s'' : State} {a b : List Char} (ha : Reads s a s') (hb : Reads s' b s'') :
    Reads s (a ++ b) s'' := by
  induction a generalizing s with
  | nil =>
    obtain rfl : s = s' := Option.some.inj ha
    exact hb
  | cons c rest ih =>
    unfold Reads run at ha
    cases hstep : step s c with
    | none => simp [hstep] at ha
    | some t =>
      rw [hstep] at ha
      exact cons hstep (ih ha)

/-- A text whose characters are taken up one by one, each read in a written form of its own. -/
theorem flatMap {f : List Char → State} {written : Char → List Char} {text : List Char}
    (h : ∀ front, ∀ c ∈ text, Reads (f front) (written c) (f (front ++ [c])))
    (front : List Char) : Reads (f front) (text.flatMap written) (f (front ++ text)) := by
  induction text generalizing front with
  | nil =>
    rw [List.append_nil]
    exact nil _
  | cons c rest ih =>
    have hrest := ih (fun front c hc => h front c (List.mem_cons_of_mem _ hc)) (front ++ [c])
    rw [List.append_assoc, List.singleton_append] at hrest
    exact (h front c (List.mem_cons_self ..)).append hrest

end Reads

/-! ## Names -/

section Delimiters

@[simp]
theorem isNameChar_space : isNameChar ' ' = false := by decide +kernel

@[simp]
theorem isNameChar_slash : isNameChar '/' = false := by decide +kernel

@[simp]
theorem isNameChar_greater : isNameChar '>' = false := by decide +kernel

@[simp]
theorem isNameChar_equals : isNameChar '=' = false := by decide +kernel

@[simp]
theorem isNameStart_slash : isNameStart '/' = false := by decide +kernel

end Delimiters

/-- A legal name is read by modes that take up its characters one by one. -/
theorem reads_name {stack : List Open} {root : Option Tree} {before : Mode}
    {m : List Char → Mode}
    (hfirst : ∀ c, isNameStart c = true →
      step ⟨before, stack, root⟩ c = some ⟨m [c], stack, root⟩)
    (hnext : ∀ front c, front ≠ [] → isNameChar c = true →
      step ⟨m front, stack, root⟩ c = some ⟨m (front ++ [c]), stack, root⟩)
    {name : String} (hname : isName name = true) :
    Reads ⟨before, stack, root⟩ name.toList ⟨m name.toList, stack, root⟩ := by
  unfold isName at hname
  cases hchars : name.toList with
  | nil => simp [hchars] at hname
  | cons c rest =>
    rw [hchars, Bool.and_eq_true] at hname
    have hrest : Reads ⟨m [c], stack, root⟩ (rest.flatMap fun d => [d])
        ⟨m (c :: rest), stack, root⟩ := by
      refine Reads.flatMap (f := fun front => ⟨m (c :: front), stack, root⟩) ?_ []
      intro front d hd
      exact Reads.single (hnext (c :: front) d (by simp) (List.all_eq_true.1 hname.2 d hd))
    rw [List.flatMap_singleton'] at hrest
    exact Reads.cons (hfirst c hname.1) hrest

end Reader

end CloudStub.Xml
