import CloudStub.Proofs.Reply.Rendering
import CloudStub.Proofs.Rule.Conditions
import CloudStub.Proofs.Session.History

/-!
# Names of operations in answers

The envelope of a value, or the root element without one, is named after an operation.  The matcher
of the rule may declare this operation, and the request may name one.  Whoever answers a request has
accepted it, so the two agree: the answer is named after the request, whether an operation is
declared or not.

## Main Definitions

- `Xml.BeginsWithTag`: a text begins with a tag of a name
- `Response.NamedAfter`: the tags of a document that an operation names
- `Response.AnswersInXml`: the answers with a structured value in XML
- `answerByRequest`: the answer of a winner where no operation is declared

## Main Statements

- `Rule.respond_of_accepts`: the answer of a rule to a request that it accepts
- `Response.namedAfter_of_encodeXml`: the tags of a document
- `Session.run_named_by_request`: the answers of a run
-/

namespace CloudStub

/-! ### Declared and inferred operations -/

/-- A request that is accepted names the operation that is declared. -/
theorem Matcher.action_of_accepts {m : Matcher} {r : Received} (h : m.accepts r = true)
    {action : String} (haction : m.action = some action) : r.action = some action := by
  simp only [accepts, meetsTarget, Bool.and_eq_true] at h
  obtain ⟨⟨⟨⟨htarget, -⟩, -⟩, -⟩, -⟩ := h
  obtain ⟨⟨⟨⟨⟨⟨-, hsame⟩, -⟩, -⟩, -⟩, -⟩, -⟩ := htarget
  exact same_eq_true_iff.1 hsame action haction

/-- For a request that is accepted it makes no difference that an operation is declared. -/
theorem Response.actionFor_of_accepts {m : Matcher} {r : Received} (h : m.accepts r = true) :
    actionFor r m.action = actionFor r none := by
  cases haction : m.action with
  | none => rfl
  | some action =>
    have hnamed : actionFor r none = r.action.getD "" := rfl
    rw [hnamed, Matcher.action_of_accepts h haction]
    rfl

/-- The answer of a rule to a request that it accepts is named after the request. -/
theorem Rule.respond_of_accepts {rule : Rule} {r : Received}
    (h : rule.matcher.accepts r = true) :
    rule.respond r = (rule.response.render r none).toMessage := by
  rw [respond, Response.render, Response.render, Response.actionFor_of_accepts h]

/-! ### Tags of documents -/

namespace Xml

/-- A text begins with a tag of this name: behind the name there is no character of names. -/
def BeginsWithTag (name : String) (text : List Char) : Prop :=
  ∃ c rest, text = '<' :: (name.toList ++ c :: rest) ∧ isNameChar c = false

/-- Behind the name of an element come blanks and attributes, or the end of the tag. -/
theorem Markup.inside_cases (depth : Nat) (m : Markup) :
    m.inside depth = [] ∨
      ∃ c rest, m.inside depth = c :: rest ∧ isNameChar c = false ∧
        c ∉ Response.standIn.toList := by
  have hattributes : ∀ attributes : List (String × String), attributeChars attributes = [] ∨
      ∃ rest, attributeChars attributes = ' ' :: rest := by
    intro attributes
    cases attributes with
    | nil => exact .inl rfl
    | cons a rest => exact .inr ⟨_, rfl⟩
  have hopen : ∀ attributes tail, ∃ c rest, attributeChars attributes ++ '>' :: tail = c :: rest ∧
      isNameChar c = false ∧ c ∉ Response.standIn.toList := by
    intro attributes tail
    rcases hattributes attributes with h | ⟨rest, h⟩
    · exact ⟨'>', tail, by rw [h]; rfl, by simp, by decide⟩
    · exact ⟨' ', _, by rw [h]; rfl, by simp, by decide⟩
  cases m with
  | empty name attributes =>
    rcases hattributes attributes with h | ⟨rest, h⟩
    · exact .inl h
    · exact .inr ⟨' ', rest, h, by simp, by decide⟩
  | text name attributes body => exact .inr (hopen attributes _)
  | block name attributes own children => exact .inr (hopen attributes _)

theorem Markup.closing_cases (m : Markup) :
    ∃ c rest, m.closing = c :: rest ∧ isNameChar c = false := by
  have hless : isNameChar '<' = false := by decide +kernel
  cases m with
  | empty => exact ⟨'/', _, rfl, by simp⟩
  | text | block => exact ⟨'<', _, rfl, hless⟩

/-- An element begins with its tag. -/
theorem Markup.beginsWithTag_chars (depth : Nat) (m : Markup) :
    BeginsWithTag m.name (m.chars depth) := by
  rcases m.inside_cases depth with h | ⟨c, rest, h, hc, -⟩
  · obtain ⟨c, rest, hclosing, hc⟩ := m.closing_cases
    refine ⟨c, rest, ?_, hc⟩
    rw [Markup.chars, h, hclosing, List.nil_append]
  · refine ⟨c, rest ++ m.closing, ?_, hc⟩
    rw [Markup.chars, h, List.cons_append]

end Xml

namespace Response

open Xml

/-- The tags of a document that an operation names: that of the outermost element, and in an
envelope also that of the value. -/
structure NamedAfter (r : Response) (action document : String) : Prop where
  /-- The outermost element. -/
  outer : BeginsWithTag (r.outerName action) document.toList
  /-- The element inside the envelope. -/
  inner : r.unwrapped = false → ∃ value,
    document.toList = ("<" ++ action ++ "Response>\n  ").toList ++ value ∧
      BeginsWithTag (action ++ "Result") value

theorem beginsWithTag_envelope (action : String) (value : List Char) :
    BeginsWithTag (action ++ "Response")
      (("<" ++ action ++ "Response>\n  ").toList ++ value) :=
  ⟨'>', "\n  ".toList ++ value, by simp, by simp⟩

/-- An envelope up to the element of the value. -/
theorem around_eq (action : String) (inside closing : List Char) :
    ∃ rest, around action.toList inside closing =
      ("<" ++ action ++ "Response>\n  ").toList ++
        '<' :: ((action ++ "Result").toList ++ (inside ++ (closing ++ rest))) := by
  refine ⟨'\n' :: (blanks 1 ++ metadataMarkup.chars 1) ++
    ("\n</".toList ++ (action.toList ++ "Response>".toList)), ?_⟩
  simp [around]

/-- The element of the value inside an envelope, where the stand-in is replaced. -/
theorem beginsWithTag_replaced (action : String) (v : Json) (rest : List Char) :
    BeginsWithTag (action ++ "Result")
      ('<' :: ((action ++ "Result").toList ++
        (Cut.replaceFrom standIn.toList action.toList 0 ((Markup.ofValue "" v).inside 1) ++
          ((Markup.ofValue (action ++ "Result") v).closing ++ rest)))) := by
  rcases (Markup.ofValue "" v).inside_cases 1 with h | ⟨c, tail, h, hc, hforeign⟩
  · obtain ⟨c, tail, hclosing, hc⟩ := (Markup.ofValue (action ++ "Result") v).closing_cases
    refine ⟨c, tail ++ rest, ?_, hc⟩
    rw [h, hclosing]
    rfl
  · -- The replacement keeps a character that the stand-in does not contain.
    have hkept : Cut.replaceFrom standIn.toList action.toList 0 (c :: tail) =
        c :: Cut.replaceFrom standIn.toList action.toList 0 tail :=
      Cut.replaceFrom_append_cons marker_standIn.ne_nil hforeign [] tail (Nat.le_refl 0)
    exact ⟨c, _, by rw [h, hkept, List.cons_append], hc⟩

/-- The tags of a document are named after the operation that it is encoded for. -/
theorem namedAfter_of_encodeXml {r : Response} {action document : String} {v : Json}
    (h : r.encodeXml action v = .ok document) : r.NamedAfter action document := by
  unfold encodeXml at h
  cases hwrap : r.unwrapped with
  | true =>
    rw [hwrap] at h
    obtain ⟨-, hchars⟩ := (document_eq_ok_iff _ v document).1 h
    constructor
    · rw [hchars, outerName, hwrap]
      have htag := (Markup.ofValue (r.rootTag.getD (action ++ "Response")) v).beginsWithTag_chars 0
      rwa [Markup.name_ofValue] at htag
    · intro hfalse
      rw [hwrap] at hfalse
      cases hfalse
  | false =>
    rw [hwrap] at h
    obtain ⟨-, hchars⟩ := (envelope_eq_ok_iff action v document).1 h
    obtain ⟨rest, hrest⟩ := around_eq action
      (Cut.replaceFrom standIn.toList action.toList 0 ((Markup.ofValue "" v).inside 1))
      (Markup.ofValue (action ++ "Result") v).closing
    rw [hrest] at hchars
    constructor
    · rw [hchars, outerName, hwrap]
      exact beginsWithTag_envelope action _
    · exact fun _ => ⟨_, hchars, beginsWithTag_replaced action v rest⟩

/-- The answers with a structured value in XML to a request: a document that is named after the
operation of the request, or the error for an illegal name. -/
inductive AnswersInXml (r : Response) (req : Received) (v : Json) : Http.Response → Prop where
  /-- A document. -/
  | document {document : String} (hencode : r.encodeXml (req.action.getD "") v = .ok document)
    (hnamed : r.NamedAfter (req.action.getD "") document) :
    AnswersInXml r req v
      (Draft.complete
        ⟨r.status.getD 200, r.contentType.getD "text/xml", Utf8.encode document, r.headers⟩)
  /-- An error. -/
  | error {n : String} (hillegal : r.IllegalName (req.action.getD "") v n) :
    AnswersInXml r req v (badBody req.format (InvalidName.message ⟨n⟩)).complete

theorem answersInXml_render {r : Response} {req : Received} {v : Json}
    (hbody : r.body = .structured v)
    (hxml : r.encoding = .xml ∨ r.encoding = .automatic ∧ req.format = .xml) :
    r.AnswersInXml req v (r.render req none).toMessage := by
  have hchooses := (choosesXml_iff r req.format).2 hxml
  cases hencode : r.encodeXml (actionFor req none) v with
  | ok document =>
    rw [render_of_encodeXml_ok hbody hchooses hencode]
    exact .document hencode (namedAfter_of_encodeXml hencode)
  | error e =>
    rw [render_of_encodeXml_error hbody hchooses hencode]
    exact .error (encodeXml_error hencode)

end Response

/-! ### Runs -/

/-- The answer of a winner where no operation is declared. -/
def answerByRequest (declared : List Declared) (r : Received) (w : Option Nat) : Http.Response :=
  match w.bind fun k => declared[k]? with
  | some d => (d.2.render r none).toMessage
  | none => unmatchedAnswer r

/-- A winner has accepted the request. -/
theorem answerOf_of_wins {declared : List Declared} {earlier : List (Option Nat)} {r : Received}
    {w : Option Nat} (h : Wins declared earlier r w) :
    answerOf declared r w = answerByRequest declared r w := by
  cases w with
  | none => rfl
  | some k =>
    obtain ⟨⟨d, hd, haccepts, -⟩, -⟩ := h
    rw [answerOf, answerByRequest, Option.bind_some, hd]
    exact Rule.respond_of_accepts haccepts

theorem History.zipWith_answerOf {declared : List Declared} {rs : List Received}
    {ws : List (Option Nat)} (h : History declared rs ws) :
    List.zipWith (answerOf declared) rs ws = List.zipWith (answerByRequest declared) rs ws := by
  apply List.ext_getElem?
  intro i
  rw [List.getElem?_zipWith, List.getElem?_zipWith]
  cases hr : rs[i]? with
  | none => rfl
  | some r =>
    cases hw : ws[i]? with
    | none => rfl
    | some w => exact congrArg some (answerOf_of_wins (h.wins i r w hr hw))

namespace Session

/-- Names of operations in the answers of a run.  The answer of a rule to a request that it accepts
is what its response renders where no operation is declared, and is the same when the matcher
declares none.  So in every run each winner answers what its response renders for the request
alone.  When it answers a structured value in XML, the envelope or the root element is named after
the operation of the request; when there is no document, the error is for an illegal name there. -/
theorem run_named_by_request (declared : List Declared) (failOnUnmatched : Bool) (dumper : Dumper)
    (setting : DebugSetting) (first : Nat) (events : List Event) :
    let rs := classified first (requests events)
    let answers := ((fresh declared failOnUnmatched dumper setting first).run events).1
    (∀ (rule : Rule) (r : Received), rule.matcher.accepts r = true →
        rule.respond r = (rule.response.render r none).toMessage ∧
          rule.respond r =
            Rule.respond { rule with matcher := { rule.matcher with action := none } } r) ∧
      ∃ ws, History declared rs ws ∧ answers = List.zipWith (answerByRequest declared) rs ws ∧
        ∀ (i k : Nat) (r : Received) (d : Declared) (v : Json), rs[i]? = some r →
          ws[i]? = some (some k) → declared[k]? = some d → d.2.body = .structured v →
            (d.2.encoding = .xml ∨ d.2.encoding = .automatic ∧ r.format = .xml) →
              ∃ answer, answers[i]? = some answer ∧ d.2.AnswersInXml r v answer := by
  intro rs answers
  refine ⟨fun rule r haccepts => ?_, ?_⟩
  · have hrespond := Rule.respond_of_accepts haccepts
    exact ⟨hrespond, hrespond⟩
  · obtain ⟨ws, hanswers, htracks⟩ :=
      tracks_run declared failOnUnmatched dumper setting first events
    have hnamed : answers = List.zipWith (answerByRequest declared) rs ws :=
      hanswers.trans htracks.history.zipWith_answerOf
    refine ⟨ws, htracks.history, hnamed, fun i k r d v hr hw hd hbody hxml => ?_⟩
    refine ⟨(d.2.render r none).toMessage, ?_, Response.answersInXml_render hbody hxml⟩
    rw [hnamed]
    refine List.getElem?_zipWith_eq_some.2 ⟨r, some k, hr, hw, ?_⟩
    rw [answerByRequest, Option.bind_some, hd]

/-- A rule for an operation, and a request that names it in its target field. -/
theorem run_named_by_request_target :
    let response : Response := { Response.ofBody (.structured (.ofMembers [])) with encoding := .xml }
    let declared : List Declared := [(Matcher.any.add (.action "List"), response)]
    let req : Http.Request :=
      { method := ⟨"GET"⟩, uri := ⟨some "http", some "example.com", "/", none⟩,
        headers := .insert .empty "x-amz-target" (Utf8.encode "v1.List"), body := [] }
    let r := Received.ofRequest 1 req
    let s := fresh declared true (.new .environment false) (.initial none) 1
    (r.action = some "List" ∧ Wins declared [] r (some 0)) ∧
      ∃ answer, (s.run [.request req]).1[0]? = some answer ∧
        response.AnswersInXml r (.ofMembers []) answer := by
  intro response declared req r s
  have hwins : Wins declared [] r (some 0) := by
    refine ⟨⟨_, rfl, by decide +kernel, fun limit hlimit => by cases hlimit⟩, fun j hj => ?_⟩
    exact absurd hj (Nat.not_lt_zero j)
  obtain ⟨-, ws, hhistory, -, hanswers⟩ := run_named_by_request declared true
    (.new .environment false) (.initial none) 1 [.request req]
  have hws : ws = [some 0] := hhistory.unique ((History.nil declared).concat hwins)
  refine ⟨⟨by decide +kernel, hwins⟩, ?_⟩
  exact hanswers 0 0 r _ (.ofMembers []) rfl (by rw [hws]; rfl) rfl rfl (.inl rfl)

end Session

end CloudStub
