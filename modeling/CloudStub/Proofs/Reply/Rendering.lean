import CloudStub.Proofs.Reply.Fault
import CloudStub.Proofs.Xml.Envelope
import CloudStub.Proofs.Xml.Names

/-!
# Structured values that cannot be rendered

A structured value is rendered as XML unless one of the names that it gives rise to is illegal, or
that of the outermost element is.  Then the answer is an error that carries such a name.  Otherwise
it is the document of the value: its tree, alone or in an envelope.

## Main Definitions

- `Response.outerName`: the name of the outermost element
- `Response.IllegalName`: the illegal names in the XML of a value
- `Response.envelopeTree`: the tree of a value in an envelope
- `Response.IsDocument`: the documents of a value
- `Response.badBody`: the error answer for a value that cannot be rendered

## Main Statements

- `Response.exists_encodeXml_iff`: when there is a document
- `Response.isDocument_of_encodeXml`: what the document is
- `Response.encodeXml_error`: what the error carries otherwise
- `Response.encodeXml_ne_body`: a document is never an error answer
- `Response.render_structured_xml`: the draft for a structured value

## Design Notes

A declared response may look like an error in all but its body.  That no document is the body of an
error rests on the order of keys: an error lists its type before its code.
-/

namespace CloudStub.Response

open Xml

/-- The name of the outermost element of a structured value. -/
def outerName (r : Response) (action : String) : String :=
  if r.unwrapped then r.rootTag.getD (action ++ "Response") else action ++ "Response"

/-- An illegal name in the XML of a structured value: that of the outermost element, or one that
the value gives rise to. -/
def IllegalName (r : Response) (action : String) (v : Json) (n : String) : Prop :=
  isName n = false ∧ (n = r.outerName action ∨ Named v n)

/-- The error answer for a structured value that cannot be rendered. -/
def badBody (format : Format) (message : String) : Draft :=
  ⟨400, format.contentType, Utf8.encode ((Fault.new "BadMockBody" message).body format), []⟩

/-- The tree of a value in an envelope named after an operation. -/
def envelopeTree (action : String) (v : Json) : Tree :=
  .element (action ++ "Response") [] ""
    [Tree.ofValue (action ++ "Result") v,
      .element "ResponseMetadata" [] "" [.element "RequestId" [] envelopeRequestId []]]

/-- The documents of a structured value, which are read as trees up to spaces and line ends around
texts. -/
inductive IsDocument (r : Response) (action : String) (v : Json) : String → Prop where
  /-- Unwrapped, a document is read as the tree of the value. -/
  | unwrapped {document : String} {t : Tree} (h : r.unwrapped = true)
    (hread : read document = some t)
    (htree : t.trimmed = (Tree.ofValue (r.outerName action) v).trimmed) :
    IsDocument r action v document
  /-- Else the name of the operation takes the place of the stand-in, throughout a text that is read
  as the tree of the value in an envelope. -/
  | wrapped {written : String} {t : Tree} (h : r.unwrapped = false)
    (hread : read written = some t)
    (htree : t.trimmed = (envelopeTree standIn v).trimmed) :
    IsDocument r action v (Cut.replaceAll standIn action written)

/-! ### Documents -/

theorem legal_metadataMarkup : metadataMarkup.legal = true := by
  have hname := (legal_names "ResponseMetadata" (by simp)).1
  have hid := (legal_names "RequestId" (by simp)).1
  simp [metadataMarkup, Markup.legal, Markup.allLegal, Markup.legalAttributes, hname, hid]

theorem legal_envelopeMarkup_iff (action : String) (v : Json) :
    (envelopeMarkup action v).legal = true ↔
      isName (action ++ "Response") = true ∧ ∀ n, Named v n → isName n = true := by
  have hresult : isName (action ++ "Result") = isName (action ++ "Response") := by
    rw [isName_result, isName_response]
  have hvalue : (Markup.ofValue (action ++ "Result") v).legal = true ↔
      isName (action ++ "Response") = true ∧ ∀ n, Named v n → isName n = true := by
    rw [← Markup.legal_tree, Markup.tree_ofValue, Tree.legal_ofValue_iff, hresult]
  simp only [envelopeMarkup, Markup.legal, Markup.legalAttributes, Markup.allLegal,
    legal_metadataMarkup, List.all_nil, Bool.and_true, Bool.and_eq_true, hvalue]
  exact and_iff_right_of_imp And.left

theorem not_exists_illegalName_iff {r : Response} {action : String} {v : Json} :
    (¬ ∃ n, r.IllegalName action v n) ↔
      isName (r.outerName action) = true ∧ ∀ n, Named v n → isName n = true := by
  constructor
  · intro h
    exact ⟨eq_true_of_ne_false fun houter => h ⟨_, houter, Or.inl rfl⟩,
      fun n hn => eq_true_of_ne_false fun hname => h ⟨n, hname, Or.inr hn⟩⟩
  · rintro ⟨houter, hnamed⟩ ⟨n, hname, rfl | hn⟩
    · exact Bool.eq_false_iff.1 hname houter
    · exact Bool.eq_false_iff.1 hname (hnamed n hn)

/-- There is a document when all names are legal. -/
theorem exists_encodeXml_iff (r : Response) (action : String) (v : Json) :
    (∃ out, r.encodeXml action v = .ok out) ↔ ¬ ∃ n, r.IllegalName action v n := by
  rw [not_exists_illegalName_iff]
  unfold encodeXml outerName
  cases r.unwrapped with
  | true => exact (exists_document_iff _ v).trans (Tree.legal_ofValue_iff _ v)
  | false => exact (exists_envelope_iff action v).trans (legal_envelopeMarkup_iff action v)

theorem tree_envelopeMarkup (action : String) (v : Json) :
    (envelopeMarkup action v).tree = envelopeTree action v := by
  simp [envelopeMarkup, envelopeTree, metadataMarkup, Markup.tree, Markup.allTrees,
    Markup.tree_ofValue]

/-- What is encoded is a document of the value. -/
theorem isDocument_of_encodeXml {r : Response} {action : String} {v : Json} {out : String}
    (h : r.encodeXml action v = .ok out) : r.IsDocument action v out := by
  unfold encodeXml at h
  cases hwrap : r.unwrapped with
  | true =>
    rw [hwrap, if_pos rfl] at h
    obtain ⟨t, hread, htree⟩ := read_document h
    refine .unwrapped hwrap hread ?_
    rw [htree, outerName, hwrap, if_pos rfl]
  | false =>
    rw [hwrap, if_neg Bool.false_ne_true] at h
    obtain ⟨written, hwritten, -, rfl⟩ := (envelope_eq_ok_iff_written action v out).1 h
    obtain ⟨hlegal, hchars⟩ := ((writeEnvelope_writes standIn v).text_eq_ok_iff written).1 hwritten
    refine .wrapped hwrap (read_eq_some hlegal hchars) ?_
    rw [Markup.trimmed_asRead, tree_envelopeMarkup]

/-! ### Errors -/

/-- The tags of an envelope have legal names before the name of the operation is put in. -/
theorem writeEnvelope_blames (v : Json) :
    Blames (writeEnvelope standIn v) fun n => isName n = true ∨ Named v n := by
  obtain ⟨hresponse, hresult⟩ := isName_standIn
  have hmetadata := (legal_names "ResponseMetadata" (by simp)).1
  have hid := (legal_names "RequestId" (by simp)).1
  have hroot : Blames (Writer.root (standIn ++ "Result") v) fun n => isName n = true ∨ Named v n :=
    (Writer.root_blames _ v).mono fun n hn => hn.imp_left fun h => (congrArg isName h).trans hresult
  exact (Writer.openTag_blames (Or.inl hresponse)).bind fun _ => hroot.bind fun _ =>
    (Writer.openTag_blames (Or.inl hmetadata)).bind fun _ =>
      (Writer.textElement_blames (Or.inl hid) _).bind fun _ =>
        (Writer.closeTag_blames _).bind fun _ => Writer.closeTag_blames _

theorem envelope_error {action : String} {v : Json} {e : InvalidName}
    (he : envelope action v = .error e) :
    isName e.name = false ∧ (e.name = action ++ "Response" ∨ Named v e.name) := by
  unfold envelope at he
  cases htext : (writeEnvelope standIn v).text with
  | error e' =>
    rw [htext] at he
    obtain rfl : e' = e := Except.error.inj he
    obtain ⟨hillegal, hlegal | hnamed⟩ := (writeEnvelope_blames v).text_error htext
    · rw [hillegal] at hlegal
      cases hlegal
    · exact ⟨hillegal, Or.inr hnamed⟩
  | ok document =>
    -- The value is written, so it is the name of the operation that is illegal.
    rw [htext] at he
    cases hname : isName (action ++ "Response") with
    | true => simp [hname, bind, Except.bind] at he
    | false =>
      simp only [hname, bind, Except.bind, Bool.false_eq_true, if_false,
        Except.error.injEq] at he
      subst he
      exact ⟨hname, Or.inl rfl⟩

/-- Without a document, the error carries an illegal name: that of the outermost element or one
that the value gives rise to. -/
theorem encodeXml_error {r : Response} {action : String} {v : Json} {e : InvalidName}
    (he : r.encodeXml action v = .error e) : r.IllegalName action v e.name := by
  unfold encodeXml at he
  unfold IllegalName outerName
  cases hwrap : r.unwrapped with
  | true =>
    rw [hwrap] at he
    exact (Writer.root_blames _ v).text_error he
  | false =>
    rw [hwrap] at he
    exact envelope_error he

/-! ### Documents are no errors -/

theorem head?_encodeXml {r : Response} {action : String} {v : Json} {out : String}
    (h : r.encodeXml action v = .ok out) : out.toList.head? = some '<' := by
  unfold encodeXml at h
  split at h
  · rw [((document_eq_ok_iff _ v out).1 h).2]
    rfl
  · rw [((envelope_eq_ok_iff action v out).1 h).2]
    rfl

/-- The elements of an error are not in the order of their names. -/
theorem outline_ofValue_ne (name : String) (v : Json) (f : Fault) :
    (Tree.ofValue name v).outline ≠ f.markup.tree.outline := by
  intro h
  -- Behind the first tag comes the element that holds type, code and message.
  let inner := (Tree.element "Error" [] "" [.element "Type" [] f.side [],
    .element "Code" [] f.code [], .element "Message" [] f.message []]).outline
  have hmem : inner ∈ (Tree.ofValue name v).children.map Tree.outline := by
    rw [← Tree.allOutline_eq_map, ← Tree.children_outline, h]
    exact List.mem_cons_self ..
  obtain ⟨t, ht, hinner⟩ := List.mem_map.1 hmem
  obtain ⟨key, w, rfl⟩ := (Tree.children_ofValue name v).2 t ht
  have hnames : (Tree.ofValue key w).children.map Tree.name = ["Type", "Code", "Message"] := by
    have houtlines : inner.children.map Tree.name = (Tree.ofValue key w).children.map Tree.name := by
      rw [← hinner, Tree.children_outline, Tree.allOutline_eq_map, List.map_map]
      exact List.map_congr_left fun u _ => u.name_outline
    exact houtlines.symm
  have hsorted : ((Tree.ofValue key w).children.map Tree.name).Pairwise (· ≤ ·) :=
    List.pairwise_map.2 (Tree.children_ofValue key w).1
  rw [hnames] at hsorted
  exact absurd hsorted (by decide)

theorem document_ne_xml {name : String} {v : Json} {out : String}
    (h : document name v = .ok out) (f : Fault) : out ≠ f.xml := by
  rintro rfl
  have hread := f.read_xml
  exact outline_ofValue_ne name v f
    ((outline_of_read_document h hread).symm.trans (Fault.outline_of_read_xml hread))

/-- Two texts around the first occurrence of a character. -/
theorem append_cons_inj {a b c d : List Char} {x : Char} (ha : x ∉ a) (hc : x ∉ c)
    (h : a ++ x :: b = c ++ x :: d) : a = c ∧ b = d := by
  have hfront : ∀ l r : List Char, x ∉ l → (l ++ x :: r).takeWhile (· != x) = l := by
    intro l r hl
    rw [List.takeWhile_append_of_pos fun y hy => by simpa using ne_of_mem_of_not_mem hy hl]
    simp
  have hac : a = c := by rw [← hfront a b ha, h, hfront c d hc]
  subst hac
  exact ⟨rfl, by simpa using h⟩

theorem greater_notMem {name : String} (h : isName name = true) : '>' ∉ name.toList := by
  have hstart : isNameStart '>' = false := by
    have hchar := Reader.isNameChar_greater
    simp only [isNameChar, Unicode.isAlphanumeric, Bool.or_eq_false_iff] at hchar
    simp [isNameStart, hchar]
  unfold isName at h
  cases hchars : name.toList with
  | nil => simp
  | cons c rest =>
    rw [hchars, Bool.and_eq_true] at h
    intro hmem
    rcases List.mem_cons.1 hmem with rfl | hmem
    · rw [hstart] at h
      cases h.1
    · have hchar := List.all_eq_true.1 h.2 '>' hmem
      rw [Reader.isNameChar_greater] at hchar
      cases hchar

/-- Inside an envelope the second tag is longer than in an error. -/
theorem envelope_ne_xml {action : String} {v : Json} {out : String}
    (h : envelope action v = .ok out) (f : Fault) : out ≠ f.xml := by
  rintro rfl
  obtain ⟨hlegal, hchars⟩ := (envelope_eq_ok_iff action v _).1 h
  have hname : isName (action ++ "Response") = true :=
    ((legal_envelopeMarkup_iff action v).1 hlegal).1
  obtain ⟨rest, hrest⟩ := f.toList_xml_append
  obtain ⟨inside, hinside⟩ : ∃ inside, f.xml.toList =
      '<' :: ((action ++ "Response").toList ++
        '>' :: ("\n  <".toList ++ (action.toList ++ ("Result".toList ++ inside)))) := by
    rw [hchars, around]
    simp only [String.toList_append, String.reduceToList, List.append_assoc, List.cons_append,
      List.nil_append]
    exact ⟨_, rfl⟩
  have hnone : '>' ∉ "ErrorResponse".toList := by decide
  rw [hrest, List.cons.injEq] at hinside
  obtain ⟨htag, hbehind⟩ := append_cons_inj hnone (greater_notMem hname) hinside.2
  -- The outer tags agree only for an operation of the name of the inner tag.
  have haction : action = "Error" := by
    rw [String.toList_append] at htag
    have : "ErrorResponse".toList = "Error".toList ++ "Response".toList := by decide
    exact String.toList_inj.1 (List.append_cancel_right (htag.symm.trans this))
  subst haction
  simp at hbehind

/-- A document is never the body of an error answer. -/
theorem encodeXml_ne_body {r : Response} {action : String} {v : Json} {out : String}
    (h : r.encodeXml action v = .ok out) (f : Fault) (format : Format) :
    out ≠ f.body format := by
  have hhead := head?_encodeXml h
  cases format with
  | text =>
    rintro rfl
    rw [Fault.body, f.head?_text] at hhead
    cases hhead
  | json =>
    rintro rfl
    rw [Fault.body, f.head?_json] at hhead
    cases hhead
  | xml =>
    unfold encodeXml at h
    split at h
    · exact document_ne_xml h f
    · exact envelope_ne_xml h f

/-! ### Drafts -/

theorem choosesXml_iff (r : Response) (format : Format) :
    r.choosesXml format = true ↔ r.encoding = .xml ∨ r.encoding = .automatic ∧ format = .xml := by
  unfold choosesXml
  cases r.encoding <;> cases format <;> simp

theorem render_of_encodeXml_ok {r : Response} {req : Received} {declared : Option String} {v : Json}
    (hbody : r.body = .structured v) (hxml : r.choosesXml req.format = true) {out : String}
    (h : r.encodeXml (actionFor req declared) v = .ok out) :
    r.render req declared =
      .draft ⟨r.status.getD 200, r.contentType.getD "text/xml", Utf8.encode out, r.headers⟩ := by
  have hdraft : r.draft req (actionFor req declared) =
      .ok (r.draftOf MediaType.xml (Utf8.encode out)) := by
    simp [draft, hbody, encode, hxml, h, bind, Except.bind]
  unfold render
  rw [hbody, hdraft]
  rfl

theorem render_of_encodeXml_error {r : Response} {req : Received} {declared : Option String}
    {v : Json} (hbody : r.body = .structured v) (hxml : r.choosesXml req.format = true)
    {e : InvalidName} (h : r.encodeXml (actionFor req declared) v = .error e) :
    r.render req declared = .draft (badBody req.format e.message) := by
  have hdraft : r.draft req (actionFor req declared) = .error (.invalidName e) := by
    simp [draft, hbody, encode, hxml, h, bind, Except.bind]
  unfold render
  rw [hbody, hdraft]
  cases req.format <;> rfl

/-- What a response renders for a structured value where the encoding is XML.  It is the error
answer in the format that the request expects exactly when one of the names is illegal: that of the
outermost element or one that the value gives rise to; and the error carries such a name.  In every
other case there is a document of the value, and it stands in a draft with what the response
declares. -/
theorem render_structured_xml (r : Response) (req : Received) (declared : Option String) (v : Json)
    (hbody : r.body = .structured v)
    (hxml : r.encoding = .xml ∨ r.encoding = .automatic ∧ req.format = .xml) :
    let action := actionFor req declared
    ((∃ message, r.render req declared = .draft (badBody req.format message)) ↔
        ∃ n, r.IllegalName action v n) ∧
      ((∃ n, r.IllegalName action v n) → ∃ n, r.IllegalName action v n ∧
        r.render req declared = .draft
          (badBody req.format ("invalid XML element name: " ++ Quoted.quote n))) ∧
      ((¬ ∃ n, r.IllegalName action v n) → ∃ document, r.encodeXml action v = .ok document ∧
        r.IsDocument action v document ∧ r.render req declared = .draft
          ⟨r.status.getD 200, r.contentType.getD "text/xml", Utf8.encode document, r.headers⟩) := by
  intro action
  have hchooses := (choosesXml_iff r req.format).2 hxml
  cases hencode : r.encodeXml action v with
  | error e =>
    have hillegal : r.IllegalName action v e.name := encodeXml_error hencode
    have hrender := render_of_encodeXml_error hbody hchooses hencode
    exact ⟨⟨fun _ => ⟨_, hillegal⟩, fun _ => ⟨_, hrender⟩⟩,
      fun _ => ⟨e.name, hillegal, hrender⟩, fun h => absurd ⟨_, hillegal⟩ h⟩
  | ok document =>
    have hlegal := (exists_encodeXml_iff r action v).1 ⟨document, hencode⟩
    have hrender := render_of_encodeXml_ok hbody hchooses hencode
    refine ⟨⟨?_, fun h => absurd h hlegal⟩, fun h => absurd h hlegal,
      fun _ => ⟨document, rfl, isDocument_of_encodeXml hencode, hrender⟩⟩
    -- The draft with the document is no error, since already its body is none.
    rintro ⟨message, herror⟩
    rw [hrender, Rendered.draft.injEq] at herror
    have hbytes : Utf8.encode document = (badBody req.format message).body :=
      congrArg Draft.body herror
    exact absurd (Utf8.encode_inj.1 hbytes)
      (encodeXml_ne_body hencode (Fault.new "BadMockBody" message) req.format)

/-- A value with keys that are no names: one inside the value of an attribute, and one that labels
the items of an array. -/
def oddValue (items : List Json) : Json :=
  .ofMembers [("-id", .ofMembers [("1st", .null)]), ("a key", .arr items), ("ok", .str "x")]

/-- The key of an array counts as soon as the array has an item. -/
theorem render_structured_xml_oddValue :
    let r (items : List Json) : Response :=
      { (default : Response) with body := .structured (oddValue items), encoding := .xml }
    let req : Received := default
    (∀ items, (r items).body = .structured (oddValue items) ∧
        ((r items).encoding = .xml ∨ (r items).encoding = .automatic ∧ req.format = .xml)) ∧
      (∃ document, (r []).encodeXml "Get" (oddValue []) = .ok document ∧
        (r []).IsDocument "Get" (oddValue []) document ∧
        (r []).render req (some "Get") = .draft ⟨200, "text/xml", Utf8.encode document, []⟩) ∧
      ∃ message, (r [.null]).render req (some "Get") = .draft (badBody .text message) := by
  intro r req
  refine ⟨fun items => ⟨rfl, Or.inl rfl⟩, ?_, ?_⟩
  · have h := render_structured_xml (r []) req (some "Get") (oddValue []) rfl (Or.inl rfl)
    have hlegal : (envelopeMarkup "Get" (oddValue [])).legal = true := by decide +kernel
    exact h.2.2 ((exists_encodeXml_iff _ "Get" _).1 ((exists_envelope_iff "Get" _).2 hlegal))
  · have h := render_structured_xml (r [.null]) req (some "Get") (oddValue [.null]) rfl (Or.inl rfl)
    have hkey : Json.IsChildKey "a key" := ⟨by decide, by decide⟩
    have hmember : ("a key", .arr [.null]) ∈ (Dict.ofList [("-id", .ofMembers [("1st", .null)]),
        ("a key", .arr [.null]), ("ok", Json.str "x")]).toList :=
      List.mem_cons_of_mem _ (List.mem_cons_self ..)
    have hnamed : Named (oddValue [.null]) "a key" :=
      .childKey hmember hkey (List.mem_singleton_self _)
    exact h.1.2 ⟨"a key", by decide +kernel, Or.inr hnamed⟩

end CloudStub.Response
