import CloudStub.Proofs.Xml.Occurrence
import CloudStub.Reply.Response

/-!
# The envelope of a value

An envelope is written with a stand-in for the name of the operation, which the name then replaces
everywhere in the finished document.  This module compares it with the envelope that is written
with the name from the start.  They fail for the same values.  They are the same document unless
the stand-in occurs in the value, for then the value is changed as well.

## Main Definitions

- `envelopeMarkup`: the element that an envelope is
- `around`: the characters of an envelope around what stands inside the element of the value

## Main Statements

- `writeEnvelope_writes`: writing an envelope writes its element
- `legal_envelopeMarkup`: when an envelope has only legal names
- `replaceFrom_around`: what the replacement does to an envelope
- `encodeXml_eq_direct_iff`: when the replacement yields the document with the name itself
-/

namespace CloudStub.Response

open Xml

/-! ## The element of an envelope -/

/-- The element behind the value: the request id. -/
def metadataMarkup : Markup :=
  .block "ResponseMetadata" [] none [.text "RequestId" [] envelopeRequestId]

/-- The element that an envelope is. -/
def envelopeMarkup (action : String) (v : Json) : Markup :=
  .block (action ++ "Response") [] none [Markup.ofValue (action ++ "Result") v, metadataMarkup]

theorem metadata_writes :
    Writes
      (do
        Writer.openTag "ResponseMetadata"
        Writer.textElement "RequestId" envelopeRequestId
        Writer.closeTag "ResponseMetadata")
      metadataMarkup.legal fun d => metadataMarkup.lines d := by
  have htext := Writer.textElement_writes "RequestId" envelopeRequestId
  refine (Writer.openTag_nested "ResponseMetadata" htext).congr ?_ fun d => ?_
  · simp [metadataMarkup, Markup.legal, Markup.allLegal, Markup.legalAttributes]
  · simp [metadataMarkup, Markup.lines, Markup.allLines, Markup.ownLines]

/-- Writing an envelope writes its element. -/
theorem writeEnvelope_writes (action : String) (v : Json) :
    Writes (writeEnvelope action v) (envelopeMarkup action v).legal
      fun d => (envelopeMarkup action v).lines d := by
  have hinside := (Writer.root_writes (action ++ "Result") v).seq metadata_writes
  have h := Writer.openTag_nested (action ++ "Response") hinside
  simp only [bind_assoc] at h
  refine h.congr ?_ fun d => ?_
  · simp [envelopeMarkup, Markup.legal, Markup.allLegal, Markup.legalAttributes]
  · simp [envelopeMarkup, Markup.lines, Markup.allLines, Markup.ownLines]

/-! ## Legal names -/

/-- A legal name goes behind a text exactly when the text is empty or a legal name itself. -/
theorem isName_append {suffix : String} (hname : isName suffix = true)
    (hchars : suffix.toList.all isNameChar = true) (s : String) :
    isName (s ++ suffix) = (s.toList.isEmpty || isName s) := by
  unfold isName at hname ⊢
  rw [String.toList_append]
  cases s.toList with
  | nil => simpa using hname
  | cons c rest => simp [hchars]

/-- The names that an envelope is made of are legal, and remain so behind another name. -/
theorem legal_names : ∀ name ∈ ["Response", "Result", "ResponseMetadata", "RequestId", standIn],
    isName name = true ∧ name.toList.all isNameChar = true := by
  decide +kernel

theorem isName_response (action : String) :
    isName (action ++ "Response") = (action.toList.isEmpty || isName action) := by
  obtain ⟨hname, hchars⟩ := legal_names "Response" (by simp)
  exact isName_append hname hchars action

theorem isName_result (action : String) :
    isName (action ++ "Result") = (action.toList.isEmpty || isName action) := by
  obtain ⟨hname, hchars⟩ := legal_names "Result" (by simp)
  exact isName_append hname hchars action

theorem isName_standIn :
    isName (standIn ++ "Response") = true ∧ isName (standIn ++ "Result") = true := by
  have hname : isName standIn = true := (legal_names standIn (by simp)).1
  rw [isName_response, isName_result, hname, Bool.or_true]
  exact ⟨rfl, rfl⟩

/-- Of its names, only its own distinguishes the elements of one value. -/
theorem legal_ofValue_congr {a b : String} (h : isName a = isName b) (v : Json) :
    (Markup.ofValue a v).legal = (Markup.ofValue b v).legal := by
  cases v with
  | obj members =>
    unfold Markup.ofValue
    split
    · simp only [Markup.legal, h]
    · split <;> simp only [Markup.legal, h]
  | _ => simp only [Markup.ofValue, Markup.legal, h]

/-- An envelope has only legal names when the one with the stand-in does and the name of the
operation is legal. -/
theorem legal_envelopeMarkup (action : String) (v : Json) :
    (envelopeMarkup action v).legal =
      ((envelopeMarkup standIn v).legal && isName (action ++ "Response")) := by
  cases haction : isName (action ++ "Response") with
  | false => simp [envelopeMarkup, Markup.legal, haction]
  | true =>
    have hresult : isName (action ++ "Result") = isName (standIn ++ "Result") := by
      rw [isName_result, isName_result, ← isName_response, ← isName_response, haction,
        isName_standIn.1]
    simp [envelopeMarkup, Markup.legal, Markup.allLegal, haction, isName_standIn,
      legal_ofValue_congr hresult]

/-! ## The characters of an envelope -/

/-- The characters of an envelope around what stands inside the element of the value and the end of
that element. -/
def around (action inside closing : List Char) : List Char :=
  '<' :: (action ++ ("Response>\n  <".toList ++ (action ++ ("Result".toList ++ (inside ++
    (closing ++ ('\n' :: (blanks 1 ++ metadataMarkup.chars 1) ++ ("\n</".toList ++
      (action ++ "Response>".toList)))))))))

theorem chars_envelopeMarkup (action : String) (v : Json) :
    (envelopeMarkup action v).chars 0 =
      around action.toList ((Markup.ofValue "" v).inside 1)
        (Markup.ofValue (action ++ "Result") v).closing := by
  have hvalue := (Markup.ofValue (action ++ "Result") v).flatMap_lines 1
  rw [Markup.chars, Markup.name_ofValue, Markup.inside_ofValue 1 _ ""] at hvalue
  rw [envelopeMarkup, Markup.chars_block, Markup.blockChars, Markup.allLines, Markup.allLines,
    Markup.allLines, List.append_nil, List.flatMap_append, hvalue, metadataMarkup.flatMap_lines]
  have hblanks : blanks 1 = [' ', ' '] := rfl
  simp [around, hblanks, Markup.ownLines, Markup.attributeChars]

/-- The element of a value ends either like an empty tag or in an end tag. -/
theorem closing_ofValue (v : Json) :
    (∀ name, (Markup.ofValue name v).closing = ['/', '>']) ∨
      ∀ name, (Markup.ofValue name v).closing = '<' :: '/' :: (name.toList ++ ['>']) := by
  cases v with
  | null => exact Or.inl fun _ => rfl
  | obj members =>
    unfold Markup.ofValue
    split
    · exact Or.inr fun _ => rfl
    · split
      · exact Or.inr fun _ => rfl
      · exact Or.inl fun _ => rfl
  | _ => exact Or.inr fun _ => rfl

/-! ## The replacement -/

theorem marker_standIn : Marker standIn.toList := ⟨by decide, by decide⟩

/-- Text without underscores that stands in front of other text is kept. -/
theorem replaceFrom_standIn_append {l : List Char} (h : '_' ∉ l) (new r : List Char) :
    Cut.replaceFrom standIn.toList new 0 (l ++ r) =
      l ++ Cut.replaceFrom standIn.toList new 0 r :=
  Cut.replaceFrom_append_of_notMem h r

theorem replaceFrom_closing (action : String) (v : Json) (r : List Char) :
    Cut.replaceFrom standIn.toList action.toList 0
        ((Markup.ofValue (standIn ++ "Result") v).closing ++ r) =
      (Markup.ofValue (action ++ "Result") v).closing ++
        Cut.replaceFrom standIn.toList action.toList 0 r := by
  rcases closing_ofValue v with h | h
  · rw [h, h, replaceFrom_standIn_append (by decide)]
  · have hend : ∀ name : String, '<' :: '/' :: ((name ++ "Result").toList ++ ['>']) ++ r =
        ['<', '/'] ++ (name.toList ++ ("Result>".toList ++ r)) := by
      intro name
      simp
    rw [h, h, hend, replaceFrom_standIn_append (by decide),
      Cut.replaceFrom_piece_append marker_standIn.ne_nil, replaceFrom_standIn_append (by decide)]
    simp

theorem replaceFrom_inside_append_closing (action : String) (v : Json) (inside r : List Char) :
    Cut.replaceFrom standIn.toList action.toList 0
        (inside ++ ((Markup.ofValue (standIn ++ "Result") v).closing ++ r)) =
      Cut.replaceFrom standIn.toList action.toList 0 inside ++
        Cut.replaceFrom standIn.toList action.toList 0
          ((Markup.ofValue (standIn ++ "Result") v).closing ++ r) := by
  -- Either end begins with a character that the stand-in does not contain.
  have hcut : ∀ c tail, c ∉ standIn.toList →
      Cut.replaceFrom standIn.toList action.toList 0 (inside ++ c :: tail) =
        Cut.replaceFrom standIn.toList action.toList 0 inside ++
          Cut.replaceFrom standIn.toList action.toList 0 (c :: tail) := by
    intro c tail hc
    have htail : Cut.replaceFrom standIn.toList action.toList 0 (c :: tail) =
        c :: Cut.replaceFrom standIn.toList action.toList 0 tail :=
      Cut.replaceFrom_append_cons marker_standIn.ne_nil hc [] tail (Nat.le_refl 0)
    rw [Cut.replaceFrom_append_cons marker_standIn.ne_nil hc inside tail (Nat.zero_le _), htail]
  rcases closing_ofValue v with h | h
  · rw [h]
    exact hcut '/' _ (by decide)
  · rw [h]
    exact hcut '<' _ (by decide)

theorem underscore_notMem_metadata : '_' ∉ '\n' :: (blanks 1 ++ metadataMarkup.chars 1) := by
  decide +kernel

/-- The replacement puts the name into the tags of an envelope, and works on what stands inside the
element of the value by itself. -/
theorem replaceFrom_around (action : String) (v : Json) (inside : List Char) :
    Cut.replaceFrom standIn.toList action.toList 0
        (around standIn.toList inside (Markup.ofValue (standIn ++ "Result") v).closing) =
      around action.toList (Cut.replaceFrom standIn.toList action.toList 0 inside)
        (Markup.ofValue (action ++ "Result") v).closing := by
  have hlast : Cut.replaceFrom standIn.toList action.toList 0 "Response>".toList =
      "Response>".toList := by
    have h := replaceFrom_standIn_append (l := "Response>".toList) (by decide) action.toList []
    simpa [Cut.replaceFrom] using h
  have hpiece : ∀ r, Cut.replaceFrom standIn.toList action.toList 0 (standIn.toList ++ r) =
      action.toList ++ Cut.replaceFrom standIn.toList action.toList 0 r :=
    Cut.replaceFrom_piece_append marker_standIn.ne_nil
  unfold around
  rw [← List.singleton_append, replaceFrom_standIn_append (by decide), hpiece,
    replaceFrom_standIn_append (by decide), hpiece, replaceFrom_standIn_append (by decide),
    replaceFrom_inside_append_closing, replaceFrom_closing,
    replaceFrom_standIn_append underscore_notMem_metadata,
    replaceFrom_standIn_append (by decide), hpiece, hlast, List.singleton_append]

/-! ## Comparison with the envelope that is written with the name -/

/-- What the envelope written with the name itself is, and when there is one. -/
theorem writeEnvelope_eq_ok_iff (action : String) (v : Json) (out : String) :
    (writeEnvelope action v).text = .ok out ↔
      (envelopeMarkup action v).legal = true ∧
        out.toList = around action.toList ((Markup.ofValue "" v).inside 1)
          (Markup.ofValue (action ++ "Result") v).closing := by
  rw [(writeEnvelope_writes action v).text_eq_ok_iff, chars_envelopeMarkup]

theorem exists_writeEnvelope_iff (action : String) (v : Json) :
    (∃ out, (writeEnvelope action v).text = .ok out) ↔ (envelopeMarkup action v).legal = true :=
  exists_ok_iff (writeEnvelope_eq_ok_iff action v)

/-- An envelope is the one that was written with the stand-in, behind the replacement; there is none
without a legal name. -/
theorem envelope_eq_ok_iff_written (action : String) (v : Json) (out : String) :
    envelope action v = .ok out ↔
      ∃ written, (writeEnvelope standIn v).text = .ok written ∧
        isName (action ++ "Response") = true ∧ out = Cut.replaceAll standIn action written := by
  unfold envelope
  cases (writeEnvelope standIn v).text with
  | error e => simp [bind, Except.bind]
  | ok written =>
    cases isName (action ++ "Response") with
    | false => simp [bind, Except.bind]
    | true => simp [bind, Except.bind, eq_comm]

/-- What an envelope is, and when there is one. -/
theorem envelope_eq_ok_iff (action : String) (v : Json) (out : String) :
    envelope action v = .ok out ↔
      (envelopeMarkup action v).legal = true ∧
        out.toList = around action.toList
          (Cut.replaceFrom standIn.toList action.toList 0 ((Markup.ofValue "" v).inside 1))
          (Markup.ofValue (action ++ "Result") v).closing := by
  rw [envelope_eq_ok_iff_written, legal_envelopeMarkup, Bool.and_eq_true]
  constructor
  · rintro ⟨written, hwritten, hname, rfl⟩
    obtain ⟨hlegal, hchars⟩ := (writeEnvelope_eq_ok_iff standIn v written).1 hwritten
    refine ⟨⟨hlegal, hname⟩, ?_⟩
    rw [← replaceFrom_around, ← hchars, Cut.replaceAll, String.toList_ofList]
  · rintro ⟨⟨hlegal, hname⟩, hout⟩
    obtain ⟨written, hwritten⟩ := (exists_writeEnvelope_iff standIn v).2 hlegal
    obtain ⟨-, hchars⟩ := (writeEnvelope_eq_ok_iff standIn v written).1 hwritten
    refine ⟨written, hwritten, hname, ?_⟩
    rw [Cut.replaceAll, hchars, replaceFrom_around, ← hout, String.ofList_toList]

theorem exists_envelope_iff (action : String) (v : Json) :
    (∃ out, envelope action v = .ok out) ↔ (envelopeMarkup action v).legal = true :=
  exists_ok_iff (envelope_eq_ok_iff action v)

theorem exists_error_iff {ε α : Type} (x : Except ε α) :
    (∃ e, x = .error e) ↔ ¬ ∃ a, x = .ok a := by
  cases x <;> simp

theorem around_inj (action closing : List Char) {a b : List Char} :
    around action a closing = around action b closing ↔ a = b := by
  simp [around]

/-- A response with an envelope fails for a value exactly when the envelope cannot be written with
the name itself.  Otherwise it is that very envelope, except that it replaces the stand-in also in
the names, attributes and texts of the value. -/
theorem encodeXml_eq_direct_iff (r : Response) (h : r.unwrapped = false) (action : String)
    (v : Json) :
    ((∃ e, r.encodeXml action v = .error e) ↔ ∃ e, (writeEnvelope action v).text = .error e) ∧
      ∀ direct, (writeEnvelope action v).text = .ok direct →
        (r.encodeXml action v = .ok direct ↔
          action = standIn ∨ ¬ Occurs standIn.toList (Tree.ofValue "" v).inner) := by
  have hencode : r.encodeXml action v = envelope action v := by
    rw [encodeXml, h]
    rfl
  rw [hencode]
  constructor
  · rw [exists_error_iff, exists_error_iff, exists_envelope_iff, exists_writeEnvelope_iff]
  · intro direct hdirect
    obtain ⟨hlegal, hchars⟩ := (writeEnvelope_eq_ok_iff action v direct).1 hdirect
    rw [envelope_eq_ok_iff, hchars, around_inj, eq_comm (a := Markup.inside 1 _),
      Cut.replaceFrom_eq_self_iff marker_standIn.ne_nil,
      Markup.infix_inside_iff marker_standIn, Markup.tree_ofValue, String.toList_inj]
    exact and_iff_right hlegal

/-- A value with a key, an attribute, a text and an item, in which half of the stand-in occurs. -/
def harmlessValue : Json :=
  .ofMembers [("-id", .str "_ACTION_NAME"), ("#text", .str "_HERE_ & <A>"), ("Items", .arr [.null])]

theorem encodeXml_harmlessValue :
    (default : Response).unwrapped = false ∧
      ∃ direct, (writeEnvelope "Get" harmlessValue).text = .ok direct ∧
        (default : Response).encodeXml "Get" harmlessValue = .ok direct := by
  obtain ⟨direct, hdirect⟩ := (exists_writeEnvelope_iff "Get" harmlessValue).2 (by decide +kernel)
  have h := (encodeXml_eq_direct_iff default rfl "Get" harmlessValue).2 direct hdirect
  exact ⟨rfl, direct, hdirect, h.2 (Or.inr (by decide +kernel))⟩

/-- The stand-in as the text of an element is replaced like the one in the tags. -/
theorem encodeXml_replaces_text :
    (writeEnvelope "A" (.ofMembers [("x", .str standIn)])).text =
        .ok ("<AResponse>\n  <AResult>\n    <x>_ACTION_NAME_HERE_</x>\n  </AResult>\n" ++
          "  <ResponseMetadata>\n" ++
          "    <RequestId>01234567-89ab-cdef-0123-456789abcdef</RequestId>\n" ++
          "  </ResponseMetadata>\n</AResponse>") ∧
      (default : Response).encodeXml "A" (.ofMembers [("x", .str standIn)]) =
        .ok ("<AResponse>\n  <AResult>\n    <x>A</x>\n  </AResult>\n" ++
          "  <ResponseMetadata>\n" ++
          "    <RequestId>01234567-89ab-cdef-0123-456789abcdef</RequestId>\n" ++
          "  </ResponseMetadata>\n</AResponse>") := by
  constructor
  · refine (writeEnvelope_eq_ok_iff "A" _ _).2 ⟨by decide +kernel, ?_⟩
    simp only [String.toList_append, String.reduceToList, around]
    decide +kernel
  · refine (envelope_eq_ok_iff "A" _ _).2 ⟨by decide +kernel, ?_⟩
    simp only [String.toList_append, String.reduceToList, around]
    decide +kernel

end CloudStub.Response
