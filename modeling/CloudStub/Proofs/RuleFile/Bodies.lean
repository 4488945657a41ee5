import CloudStub.Proofs.Reply.Completion
import CloudStub.Proofs.RuleFile.Records
import CloudStub.Proofs.Text.Base64
import CloudStub.RuleFile.Load

/-!
# Bodies in rule files

A response in a rule file that has nothing but a body is served like a response that a program
declares with that body.  The one exception is the null value, which in a rule file is the same as
no body.

## Main Definitions

- `Body.ofValue`: the body that a value stands for
- `ResponseEntry.Declares`: a response with nothing but a body, and the body that it spells
- `ResponseEntry.served`: the body that is served in its place
- `RuleFile.ResponseAt`: the response of the rule at an index, as written

## Main Statements

- `ResponseEntry.Declares.toResponse`: such a response is read and converted, whatever its body
- `RuleFile.response_at`: the response of a loaded rule is what is written there
- `Rule.respond_empty_ne`: an empty body does not pass for a structured value
- `RuleFile.respond_declared`: how a loaded rule answers

## Design Notes

A rule file may write its records as arrays.  `ResponseAt` looks through both forms; a response
with nothing but a body is an object, since an array has a place for every field.
-/

namespace CloudStub

/-! ### What a response spells -/

/-- The body that a value stands for: a text stands for itself, any other value is structured. -/
def Body.ofValue : Json → Body
  | .str s => .text s
  | v => .structured v

namespace ResponseEntry

/-- A response with nothing but a body, and the body that it spells. -/
inductive Declares : Outline → Body → Prop where
  /-- A value. -/
  | value {o : Outline} (h : o.isWhole = true) :
    Declares (.obj [("body", o)] true) (.ofValue o.toJson)
  /-- Bytes in Base64, with blanks around them. -/
  | base64 (b : Bytes) {front back : String}
    (hfront : ∀ c ∈ front.toList, Unicode.isBlank c = true)
    (hback : ∀ c ∈ back.toList, Unicode.isBlank c = true) :
    Declares (.obj [("body_base64", .str (front ++ Base64.encodeText b ++ back))] true) (.bytes b)

/-- The body that is served: a null value is no body. -/
def served : Body → Body
  | .structured .null => .empty
  | body => body

theorem served_eq_self {body : Body} (h : body ≠ .structured .null) : served body = body := by
  unfold served
  split
  · exact absurd rfl h
  · rfl

/-- The value that is read for a body; null is none. -/
def given : Json → Option Json
  | .null => none
  | v => some v

theorem optional_json {o : Outline} (h : o.isWhole = true) :
    Reader.json.optional o = .ok (given o.toJson) := by
  cases o with
  | null => rfl
  | broken => cases h
  | bool b => rfl
  | num n => rfl
  | str s => rfl
  | arr items closed =>
    obtain rfl : closed = true := h
    rfl
  | obj members closed =>
    obtain rfl : closed = true := h
    rfl

theorem toResponse_value (v : Json) (index : Nat) :
    { (default : ResponseEntry) with body := given v }.toResponse index =
      .ok (.ofBody (served (.ofValue v))) := by
  cases v <;> rfl

theorem readBase64_encodeText (b : Bytes) {front back : String}
    (hfront : ∀ c ∈ front.toList, Unicode.isBlank c = true)
    (hback : ∀ c ∈ back.toList, Unicode.isBlank c = true) :
    readBase64 (front ++ Base64.encodeText b ++ back) = .ok b := by
  have htext : (front ++ Base64.encodeText b ++ back).toList =
      front.toList ++ ((Base64.encodeText b).toList ++ back.toList) := by simp
  rw [readBase64, htext, Base64.decode_trimmed b hfront hback]

theorem toResponse_base64 {s : String} {b : Bytes} (h : readBase64 s = .ok b) (index : Nat) :
    { (default : ResponseEntry) with base64 := some s }.toResponse index =
      .ok (.ofBody (.bytes b)) := by
  have hbody : { (default : ResponseEntry) with base64 := some s }.toBody = .ok (.bytes b) := by
    show (readBase64 s).map Body.bytes = _
    rw [h]
    rfl
  show (do
    let body ← { (default : ResponseEntry) with base64 := some s }.toBody
    .ok (Response.ofBody body)) = _
  rw [hbody]
  rfl

/-- A response with nothing but a body is read and converted, whatever its body. -/
theorem Declares.toResponse {response : Outline} {body : Body} (h : Declares response body) :
    ∃ e, schema.read response = .ok e ∧
      ∀ index, e.toResponse index = .ok (.ofBody (served body)) := by
  cases h with
  | @value o hwhole =>
    have hread : schema.read (.obj [("body", o)] true) =
        .ok { (default : ResponseEntry) with body := given o.toJson } := by
      refine Schema.read_single rfl ?_ rfl
      show (Reader.json.optional o).map _ = _
      rw [optional_json hwhole]
      rfl
    exact ⟨_, hread, toResponse_value o.toJson⟩
  | @base64 b front back hfront hback =>
    have hread : schema.read
        (.obj [("body_base64", .str (front ++ Base64.encodeText b ++ back))] true) =
          .ok { (default : ResponseEntry) with
            base64 := some (front ++ Base64.encodeText b ++ back) } :=
      Schema.read_single rfl rfl rfl
    exact ⟨_, hread, toResponse_base64 (readBase64_encodeText b hfront hback)⟩

end ResponseEntry

/-! ### What is read and loaded -/

/-- The response of a rule is what is read from its part. -/
theorem RuleEntry.setBy_response (response : Outline) :
    RuleEntry.schema.SetBy "response" response fun e =>
      ResponseEntry.schema.read response = .ok e.response where
  nodup := by decide
  own f hf hname r r' hread := by
    simp only [RuleEntry.schema, List.mem_cons, List.not_mem_nil, or_false] at hf
    rcases hf with rfl | rfl
    · exact absurd hname (by decide)
    · obtain ⟨e, he, rfl⟩ := exists_of_map_eq_ok hread
      exact he
  others f hf hname o r r' hread hr := by
    simp only [RuleEntry.schema, List.mem_cons, List.not_mem_nil, or_false] at hf
    rcases hf with rfl | rfl
    · obtain ⟨e, -, rfl⟩ := exists_of_map_eq_ok hread
      exact hr
    · exact absurd rfl hname

namespace RuleFile

/-- The rules of a file are what is read from their part. -/
theorem setBy_rules (part : Outline) :
    schema.SetBy "rules" part fun f => Reader.list RuleEntry.schema.read part = .ok f.rules where
  nodup := by decide
  own f hf hname r r' hread := by
    simp only [schema, List.mem_cons, List.not_mem_nil, or_false] at hf
    rcases hf with rfl | rfl
    · exact absurd hname (by decide)
    · obtain ⟨rules, hrules, rfl⟩ := exists_of_map_eq_ok hread
      exact hrules
  others f hf hname o r r' hread hr := by
    simp only [schema, List.mem_cons, List.not_mem_nil, or_false] at hf
    rcases hf with rfl | rfl
    · obtain ⟨fails, -, rfl⟩ := exists_of_map_eq_ok hread
      exact hr
    · exact absurd rfl hname

/-- The response of the rule at an index, as it is written in a file. -/
def ResponseAt (i : Nat) (response file : Outline) : Prop :=
  ∃ items closed entry, schema.HasPart "rules" (.arr items closed) file ∧
    items[i]? = some entry ∧ RuleEntry.schema.HasPart "response" response entry

/-- A file with one rule that has nothing but a response. -/
theorem responseAt_single (response : Outline) :
    ResponseAt 0 response
      (.obj [("rules", .arr [.obj [("response", response)] true] true)] true) :=
  ⟨_, _, _, .member (List.mem_singleton.2 rfl), rfl, .member (List.mem_singleton.2 rfl)⟩

theorem rulesFrom_getElem? {entries : List RuleEntry} {index : Nat} {rules : List Rule}
    (h : rulesFrom index entries = .ok rules) {i : Nat} {e : RuleEntry}
    (he : entries[i]? = some e) :
    ∃ rule, rules[i]? = some rule ∧ e.toRule (index + i) = .ok rule := by
  induction entries generalizing index rules i with
  | nil => cases he
  | cons first rest ih =>
    obtain ⟨rule, hrule, h⟩ := exists_of_bind_eq_ok h
    obtain ⟨more, hmore, h⟩ := exists_of_bind_eq_ok h
    obtain rfl := Except.ok.inj h
    cases i with
    | zero =>
      obtain rfl := Option.some.inj he
      exact ⟨rule, rfl, hrule⟩
    | succ i =>
      obtain ⟨found, hfound, hto⟩ := ih hmore he
      exact ⟨found, hfound, by rwa [Nat.add_assoc, Nat.add_comm 1 i] at hto⟩

/-- The response of a loaded rule is what is written there. -/
theorem response_at {text : String} {file : RuleFile} {rules : List Rule}
    (hparse : parse text = .ok file) (hrules : file.toRules = .ok rules) {i : Nat}
    {response : Outline} (hat : ResponseAt i response (Outline.ofText text).1) :
    ∃ e matcher declared, ResponseEntry.schema.read response = .ok e ∧
      e.toResponse i = .ok declared ∧ rules[i]? = some (.new matcher declared) := by
  obtain ⟨items, closed, entry, hpart, hitem, hresponse⟩ := hat
  have hlist := (setBy_rules _).of_read hpart (Schema.read_of_parse hparse)
  obtain ⟨e, he, hentry⟩ := Reader.list_getElem? hlist hitem
  have hread := (RuleEntry.setBy_response response).of_read hresponse hentry
  obtain ⟨rule, hrule, hto⟩ := rulesFrom_getElem? hrules he
  obtain ⟨matcher, -, hto⟩ := exists_of_bind_eq_ok hto
  obtain ⟨declared, hdeclared, hto⟩ := exists_of_bind_eq_ok hto
  obtain rfl := Except.ok.inj hto
  rw [Nat.zero_add] at hdeclared
  exact ⟨e.response, matcher, declared, hread, hdeclared, hrule⟩

end RuleFile

/-! ### A null value and no body -/

namespace Response

/-- What is rendered of a structured value, or of the error in its place. -/
theorem render_structured (v : Json) (r : Received) (declared : Option String) :
    (ofBody (.structured v)).render r declared =
      match ((ofBody (.structured v)).encode (actionFor r declared) r.format v).map fun p =>
        (ofBody (.structured v)).draftOf p.1 (Utf8.encode p.2) with
      | .ok d => .draft d
      | .error e => .draft ((Fault.ofRenderError e).draft r.format) := by
  unfold render
  show (match ((ofBody (.structured v)).encode (actionFor r declared) r.format v).bind _ with
    | .ok d => Rendered.draft d
    | .error e => .draft ((Fault.ofRenderError e).draft r.format)) = _
  cases (ofBody (.structured v)).encode (actionFor r declared) r.format v <;> rfl

/-- A structured value is answered as XML where that is expected, be it by an error, and as JSON
elsewhere. -/
theorem contentType_structured (v : Json) (r : Received) (declared : Option String) :
    ∃ d, (ofBody (.structured v)).render r declared = .draft d ∧ d.headers = [] ∧
      d.contentType = if r.format = .xml then MediaType.xml else MediaType.json := by
  rw [render_structured]
  by_cases hxml : r.format = .xml
  · have hchoice : (ofBody (.structured v)).choosesXml .xml = true := rfl
    rw [if_pos hxml, hxml, encode, if_pos hchoice]
    cases (ofBody (.structured v)).encodeXml (actionFor r declared) v with
    | ok document => exact ⟨_, rfl, rfl, rfl⟩
    | error e => exact ⟨_, rfl, rfl, rfl⟩
  · have hchoice : (ofBody (.structured v)).choosesXml r.format = false := by
      cases hformat : r.format with
      | xml => exact absurd hformat hxml
      | text | json => rfl
    have hencode : (ofBody (.structured v)).encode (actionFor r declared) r.format v =
        .ok (MediaType.json, v.text) := by
      rw [encode, hchoice]
      rfl
    rw [if_neg hxml, hencode]
    exact ⟨_, rfl, rfl, rfl⟩

end Response

namespace Rule

/-- A structured value is answered as JSON or as XML. -/
theorem contentType_structured (matcher : Matcher) (v : Json) (r : Received) :
    ((new matcher (.ofBody (.structured v))).respond r).headers.first? "content-type" =
      some (Draft.contentTypeValue
        (if r.format = .xml then MediaType.xml else MediaType.json)) := by
  obtain ⟨d, hrender, hheaders, htype⟩ := Response.contentType_structured v r matcher.action
  have hrespond : (new matcher (.ofBody (.structured v))).respond r = d.complete :=
    congrArg Rendered.toMessage hrender
  rw [hrespond, Draft.contentType_complete hheaders, htype]

theorem contentType_empty (matcher : Matcher) (r : Received) :
    ((new matcher (.ofBody .empty)).respond r).headers.first? "content-type" =
      some (Draft.contentTypeValue MediaType.text) :=
  Draft.contentType_complete rfl

/-- A structured value does not pass for an empty body. -/
theorem respond_empty_ne (matcher : Matcher) (v : Json) (r : Received) :
    (new matcher (.ofBody .empty)).respond r ≠
      (new matcher (.ofBody (.structured v))).respond r := by
  intro heq
  have hsame := contentType_structured matcher v r
  rw [← heq, contentType_empty] at hsame
  split at hsame <;> exact absurd hsame (by decide +kernel)

end Rule

namespace RuleFile

/-- How a loaded rule answers whose response has nothing but a body.  Reading and converting the
response never fails.  The answer to any request is that of a rule that declares the body in a
program, unless the body is a null value, which is answered like no body. -/
theorem respond_declared {response : Outline} {body : Body}
    (h : ResponseEntry.Declares response body) :
    (∃ e declared, ResponseEntry.schema.read response = .ok e ∧
        ∀ index, e.toResponse index = .ok declared) ∧
      ∀ text file rules i, parse text = .ok file → file.toRules = .ok rules →
        ResponseAt i response (Outline.ofText text).1 →
          ∃ rule, rules[i]? = some rule ∧ ∀ r,
            (rule.respond r = (Rule.new rule.matcher (.ofBody body)).respond r ↔
              body ≠ .structured .null) ∧
            (body = .structured .null →
              rule.respond r = (Rule.new rule.matcher (.ofBody .empty)).respond r) := by
  obtain ⟨e, hread, hto⟩ := h.toResponse
  refine ⟨⟨e, _, hread, hto⟩, fun text file rules i hparse hrules hat => ?_⟩
  -- The loaded rule is made of the same entry, since reading is a function.
  obtain ⟨e', matcher, declared, hread', hdeclared, hrule⟩ := response_at hparse hrules hat
  obtain rfl : e = e' := Except.ok.inj (hread.symm.trans hread')
  obtain rfl : .ofBody (ResponseEntry.served body) = declared :=
    Except.ok.inj ((hto i).symm.trans hdeclared)
  refine ⟨_, hrule, fun r => ⟨⟨?_, fun hne => ?_⟩, ?_⟩⟩
  · rintro heq rfl
    exact Rule.respond_empty_ne matcher .null r heq
  · rw [ResponseEntry.served_eq_self hne]
    rfl
  · rintro rfl
    rfl

theorem respond_declared_list :
    let text := "\x7b\"rules\":[\x7b\"response\":\x7b\"body\":[true]\x7d\x7d]\x7d"
    let response : Outline := .obj [("body", .arr [.bool true] true)] true
    let body : Body := .structured (.arr [.bool true])
    let file : RuleFile :=
      ⟨none, [⟨default, { (default : ResponseEntry) with body := some (.arr [.bool true]) }⟩]⟩
    let rules : List Rule := [.new .any (.ofBody body)]
    (ResponseEntry.Declares response body ∧ parse text = .ok file ∧ file.toRules = .ok rules ∧
        ResponseAt 0 response (Outline.ofText text).1) ∧
      (∃ e declared, ResponseEntry.schema.read response = .ok e ∧
          ∀ index, e.toResponse index = .ok declared) ∧
        ∃ rule, rules[0]? = some rule ∧ ∀ r,
          (rule.respond r = (Rule.new rule.matcher (.ofBody body)).respond r ↔
            body ≠ .structured .null) ∧
          (body = .structured .null →
            rule.respond r = (Rule.new rule.matcher (.ofBody .empty)).respond r) := by
  intro text response body file rules
  have hdeclares : ResponseEntry.Declares response body := .value rfl
  have houtline : Outline.ofText text =
      (.obj [("rules", .arr [.obj [("response", response)] true] true)] true, some []) := by
    unfold Outline.ofText
    simp only [text, String.reduceToList]
    rfl
  have hparse : parse text = .ok file := by
    rw [parse, Schema.parse, houtline]
    rfl
  have hrules : file.toRules = .ok rules := rfl
  have hat : ResponseAt 0 response (Outline.ofText text).1 := by
    rw [houtline]
    exact responseAt_single response
  obtain ⟨hloads, hanswers⟩ := respond_declared hdeclares
  exact ⟨⟨hdeclares, hparse, hrules, hat⟩, hloads, hanswers text file rules 0 hparse hrules hat⟩

/-- A null value is spelled as a structured body and answered like no body. -/
theorem respond_null_body :
    let text := "\x7b\"rules\":[\x7b\"response\":\x7b\"body\":null\x7d\x7d]\x7d"
    let response : Outline := .obj [("body", .null)] true
    let file : RuleFile := ⟨none, [default]⟩
    let rule : Rule := .new .any (.ofBody .empty)
    let r := Received.ofRequest 1
      { method := ⟨"GET"⟩, uri := ⟨some "http", some "example.com", "/", none⟩,
        headers := .empty, body := [] }
    (ResponseEntry.Declares response (.ofValue .null) ∧ parse text = .ok file ∧
        file.toRules = .ok [rule] ∧ ResponseAt 0 response (Outline.ofText text).1) ∧
      (rule.respond r).body = [] ∧
      ((Rule.new rule.matcher (.ofBody (.ofValue .null))).respond r).body = Utf8.encode "null" ∧
      rule.respond r ≠ (Rule.new rule.matcher (.ofBody (.ofValue .null))).respond r := by
  intro text response file rule r
  have houtline : Outline.ofText text =
      (.obj [("rules", .arr [.obj [("response", response)] true] true)] true, some []) := by
    unfold Outline.ofText
    simp only [text, String.reduceToList]
    rfl
  have hparse : parse text = .ok file := by
    rw [parse, Schema.parse, houtline]
    rfl
  have hat : ResponseAt 0 response (Outline.ofText text).1 := by
    rw [houtline]
    exact responseAt_single response
  refine ⟨⟨.value rfl, hparse, rfl, hat⟩, rfl, by decide +kernel, ?_⟩
  exact Rule.respond_empty_ne rule.matcher .null r

end RuleFile

end CloudStub
