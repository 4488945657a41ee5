import CloudStub.Proofs.Request.Grouping
import CloudStub.Proofs.Text.Replacement

/-!
# Parameters of the content type

A content type names a media type and may go on with parameters.  Classification asks twice for it:
whether the media type is that of forms, and whether JSON is mentioned anywhere.  The first question
leaves the parameters aside and the second does not, so parameters that mention JSON change the
format of the answer and the payload.  They change nothing else.

## Main Definitions

- `MediaType.front`, `MediaType.parameters`: the two parts of a content type
- `MediaType.MentionAlike`: two texts of parameters make no difference behind a media type
- `Http.Request.SameUpToParameters`: requests that differ in the parameters of the content type

## Main Statements

- `MediaType.infix_iff`: what a content type mentions, its media type or its parameters mention
- `Received.agree_up_to_parameters`: what is inferred about two such requests
- `Received.differ_by_name`: a parameter that changes the format and the payload

## Design Notes

The statement is about two requests, not about one request with a changed field, since the order of
the fields of a request has no part in it.
-/

namespace CloudStub

/-! ### Content types -/

namespace MediaType

/-- What stands in front of the parameters. -/
def front (contentType : String) : List Char := contentType.toList.takeWhile (· != ';')

/-- The parameters, with the semicolon in front of them. -/
def parameters (contentType : String) : List Char := contentType.toList.dropWhile (· != ';')

/-- A word without semicolons that stands in a content type stands in front of the parameters or in
them. -/
theorem infix_iff {word : List Char} (hword : ';' ∉ word) (contentType : String) :
    word <:+: contentType.toList ↔
      word <:+: front contentType ∨ word <:+: parameters contentType := by
  have hsplit : contentType.toList = front contentType ++ parameters contentType :=
    List.takeWhile_append_dropWhile.symm
  have hnil : word = [] → word <:+: front contentType := by
    rintro rfl
    exact List.nil_infix
  rw [hsplit]
  cases hparameters : parameters contentType with
  | nil => rw [List.append_nil, List.infix_nil, or_iff_left_of_imp hnil]
  | cons c rest =>
    have hc : c = ';' := by
      have hhead := List.head?_dropWhile_not (· != ';') contentType.toList
      rw [show contentType.toList.dropWhile (· != ';') = c :: rest from hparameters] at hhead
      simpa using hhead
    subst hc
    rw [Cut.infix_append_cons_iff hword, ← List.nil_append (';' :: rest),
      Cut.infix_append_cons_iff hword, List.infix_nil, ← or_assoc, or_iff_left_of_imp hnil]

/-- The parameters of two content types with one media type make no difference: this mentions JSON
already, or the parameters of both do, or those of none. -/
def MentionAlike (s t : String) : Prop :=
  "json".toList <:+: front s ∨
    ("json".toList <:+: parameters s ↔ "json".toList <:+: parameters t)

theorem mentionAlike_iff {s t : String} (hfront : front s = front t) :
    MentionAlike s t ↔ ("json".toList <:+: s.toList ↔ "json".toList <:+: t.toList) := by
  have hword : ';' ∉ "json".toList := by decide
  rw [infix_iff hword s, infix_iff hword t, ← hfront, MentionAlike]
  by_cases hmentioned : "json".toList <:+: front s
  · simp only [hmentioned, true_or]
  · simp only [hmentioned, false_or]

end MediaType

/-! ### Requests -/

/-- Two requests have the content types `s` and `t`, which differ in their parameters at most, and
agree in all else. -/
structure Http.Request.SameUpToParameters (a b : Http.Request) (s t : String) : Prop where
  /-- The methods are the same. -/
  method : a.method = b.method
  /-- The targets are the same. -/
  uri : a.uri = b.uri
  /-- The bodies are the same. -/
  body : a.body = b.body
  /-- All other fields have the same values. -/
  others : ∀ name, name ≠ "content-type" → a.headers.values name = b.headers.values name
  /-- The first request has one content type, which is readable. -/
  first : ∃ value, a.headers.values "content-type" = [value] ∧ Http.readable? value = some s
  /-- So has the second. -/
  second : ∃ value, b.headers.values "content-type" = [value] ∧ Http.readable? value = some t
  /-- In front of the parameters the content types are the same. -/
  front : MediaType.front s = MediaType.front t

/-- The request with another content type. -/
def Http.Request.withContentType (req : Http.Request) (contentType : String) : Http.Request :=
  { req with headers := req.headers.insert "content-type" (Utf8.encode contentType) }

/-- Two content types with one media type for one request. -/
theorem Http.Request.sameUpToParameters (req : Http.Request) {s t : String}
    (hs : readable? (Utf8.encode s) = some s) (ht : readable? (Utf8.encode t) = some t)
    (hfront : MediaType.front s = MediaType.front t) :
    (req.withContentType s).SameUpToParameters (req.withContentType t) s t where
  method := rfl
  uri := rfl
  body := rfl
  others name hname := by
    show (req.headers.insert _ _).values name = (req.headers.insert _ _).values name
    rw [Headers.values_insert_of_ne _ hname, Headers.values_insert_of_ne _ hname]
  first := ⟨_, Headers.values_insert_self .., hs⟩
  second := ⟨_, Headers.values_insert_self .., ht⟩
  front := hfront

namespace Received

variable {a b : Http.Request} {s t : String}

theorem contentTypeOf_single {req : Http.Request} {contentType : String}
    (h : ∃ value, req.headers.values "content-type" = [value] ∧
      Http.readable? value = some contentType) : contentTypeOf req = contentType := by
  obtain ⟨value, hvalues, hreadable⟩ := h
  rw [contentTypeOf, Http.Request.field?, Http.Headers.first?, hvalues, List.head?_cons,
    Option.bind_some, hreadable, Option.getD_some]

theorem field?_of_same (h : a.SameUpToParameters b s t) {name : String}
    (hname : name ≠ "content-type") : a.field? name = b.field? name := by
  rw [Http.Request.field?, Http.Headers.first?, h.others name hname]
  rfl

theorem isForm_of_same (h : a.SameUpToParameters b s t) : isForm a = isForm b := by
  have hfront : s.toList.takeWhile (· != ';') = t.toList.takeWhile (· != ';') := h.front
  rw [isForm, isForm, contentTypeOf_single h.first, contentTypeOf_single h.second,
    MediaType.ofContentType, hfront]
  rfl

theorem formPairs_of_same (h : a.SameUpToParameters b s t) : formPairs a = formPairs b := by
  rw [formPairs, isForm_of_same h, h.method, h.body]
  rfl

theorem targetAction_of_same (h : a.SameUpToParameters b s t) :
    targetAction a = targetAction b := by
  rw [targetAction, field?_of_same h (by decide)]
  rfl

theorem scopeOf_of_same (h : a.SameUpToParameters b s t) : scopeOf a = scopeOf b := by
  rw [scopeOf, field?_of_same h (by decide)]
  rfl

theorem mentionsJson_single {req : Http.Request} {contentType : String}
    (h : ∃ value, req.headers.values "content-type" = [value] ∧
      Http.readable? value = some contentType) :
    MentionsJson req ↔ "json".toList <:+: contentType.toList := by
  rw [← isJson_iff, isJson, Cut.contains_iff, contentTypeOf_single h]

/-- Both requests mention JSON, or none of them does, when their parameters make no difference. -/
theorem mentionsJson_of_same (h : a.SameUpToParameters b s t) :
    (MentionsJson a ↔ MentionsJson b) ↔ MediaType.MentionAlike s t := by
  rw [mentionsJson_single h.first, mentionsJson_single h.second,
    MediaType.mentionAlike_iff h.front]

theorem format_eq_json_iff (seq : Nat) (req : Http.Request) :
    (ofRequest seq req).format = .json ↔ MentionsJson req := by
  rcases format_cases seq req with ⟨hjson, hf⟩ | ⟨hjson, -, hf⟩ | ⟨hjson, -, hf⟩
  · exact iff_of_true hf hjson
  · exact iff_of_false (by simp [hf]) hjson
  · exact iff_of_false (by simp [hf]) hjson

/-- Apart from JSON, the format does not depend on the parameters. -/
theorem format_of_same (h : a.SameUpToParameters b s t) (m n : Nat) :
    (ofRequest m a).format = (ofRequest n b).format ↔ (MentionsJson a ↔ MentionsJson b) := by
  constructor
  · intro heq
    rw [← format_eq_json_iff m a, ← format_eq_json_iff n b, heq]
  · intro hsame
    have hjson : isJson a = isJson b := by
      rw [Bool.eq_iff_iff, isJson_iff, isJson_iff, hsame]
    simp only [ofRequest, hjson, isForm_of_same h, formPairs_of_same h, targetAction_of_same h,
      scopeOf_of_same h]

theorem payloadOf_of_mentionsJson {req : Http.Request} (h : MentionsJson req) :
    payloadOf req = Json.parseBytes? req.body := by
  rw [payloadOf, (isJson_iff req).2 h]
  cases req.body <;> rfl

theorem payloadOf_of_not_mentionsJson {req : Http.Request} (h : ¬ MentionsJson req) :
    payloadOf req = none := by
  rw [payloadOf, Bool.eq_false_iff.2 (mt (isJson_iff req).1 h)]
  rfl

/-- The payload is the same, too, when the body is no JSON. -/
theorem payloadOf_of_same (h : a.SameUpToParameters b s t) :
    payloadOf a = payloadOf b ↔
      (MentionsJson a ↔ MentionsJson b) ∨ Json.parseBytes? a.body = none := by
  by_cases ha : MentionsJson a <;> by_cases hb : MentionsJson b
  · simp [payloadOf_of_mentionsJson, ha, hb, h.body]
  · simp [payloadOf_of_mentionsJson ha, payloadOf_of_not_mentionsJson hb, ha, hb]
  · simp [payloadOf_of_not_mentionsJson ha, payloadOf_of_mentionsJson hb, ha, hb, h.body, eq_comm]
  · simp [payloadOf_of_not_mentionsJson, ha, hb]

/-- What is inferred about two requests that differ only in the parameters of their content types.
Operation, service, region and all parameters are the same.  The format is the same exactly when
the parameters make no difference for the mention of JSON, and so is the payload, unless the body
is no JSON at all. -/
theorem agree_up_to_parameters (h : a.SameUpToParameters b s t) (m n : Nat) :
    let p := ofRequest m a
    let q := ofRequest n b
    (p.action = q.action ∧ p.service = q.service ∧ p.region = q.region ∧ p.params = q.params ∧
        p.formParams = q.formParams) ∧
      (p.format = q.format ↔ MediaType.MentionAlike s t) ∧
      (p.payload = q.payload ↔
        MediaType.MentionAlike s t ∨ Json.parseBytes? a.body = none) := by
  intro p q
  have hpairs := formPairs_of_same h
  have haction : p.action = q.action := by
    show (targetAction a <|> formAction (Params.append Dict.empty (formPairs a))) =
      (targetAction b <|> formAction (Params.append Dict.empty (formPairs b)))
    rw [targetAction_of_same h, hpairs]
  have hservice : p.service = q.service := by
    show (scopeOf a).map Prod.snd = (scopeOf b).map Prod.snd
    rw [scopeOf_of_same h]
  have hregion : p.region = q.region := by
    show (scopeOf a).map Prod.fst = (scopeOf b).map Prod.fst
    rw [scopeOf_of_same h]
  have hparams : p.params = q.params := by
    rw [params_eq, params_eq, hpairs, queryPairs_eq, queryPairs_eq, h.uri]
  have hformParams : p.formParams = q.formParams := by
    rw [formParams_eq, formParams_eq, hpairs]
  refine ⟨⟨haction, hservice, hregion, hparams, hformParams⟩, ?_, ?_⟩
  · rw [← mentionsJson_of_same h]
    exact format_of_same h m n
  · rw [← mentionsJson_of_same h]
    exact payloadOf_of_same h

/-- A form with a charset and without one. -/
theorem agree_up_to_parameters_charset :
    let req : Http.Request :=
      { method := ⟨"POST"⟩, uri := ⟨some "http", some "example.com", "/", none⟩,
        headers := .empty, body := Utf8.encode "Action=List" }
    let s := "application/x-www-form-urlencoded; charset=utf-8"
    let t := "application/x-www-form-urlencoded"
    let p := ofRequest 1 (req.withContentType s)
    let q := ofRequest 2 (req.withContentType t)
    (req.withContentType s).SameUpToParameters (req.withContentType t) s t ∧
      (p.action = q.action ∧ p.service = q.service ∧ p.region = q.region ∧ p.params = q.params ∧
        p.formParams = q.formParams) ∧ p.format = q.format ∧ p.payload = q.payload := by
  intro req s t p q
  have hsame : (req.withContentType s).SameUpToParameters (req.withContentType t) s t :=
    req.sameUpToParameters (by decide +kernel) (by decide +kernel) (by decide)
  have halike : MediaType.MentionAlike s t := by
    refine .inr (iff_of_false ?_ ?_) <;> rw [← Cut.contains_iff] <;> decide
  obtain ⟨hrest, hformat, hpayload⟩ := agree_up_to_parameters hsame 1 2
  exact ⟨hsame, hrest, hformat.2 halike, hpayload.2 (.inl halike)⟩

/-- The name of a file in a parameter: the same body is plain text, or it is a payload that is
answered in JSON. -/
theorem differ_by_name :
    let req : Http.Request :=
      { method := ⟨"POST"⟩, uri := ⟨some "http", some "example.com", "/", none⟩,
        headers := .empty, body := Utf8.encode "1" }
    let s := "text/plain; name=data.txt"
    let t := "text/plain; name=data.json"
    let p := ofRequest 1 (req.withContentType s)
    let q := ofRequest 2 (req.withContentType t)
    (req.withContentType s).SameUpToParameters (req.withContentType t) s t ∧
      (p.format = .text ∧ p.payload.isSome = false) ∧
        (q.format = .json ∧ q.payload.isSome = true) := by
  intro req s t p q
  have hsame : (req.withContentType s).SameUpToParameters (req.withContentType t) s t :=
    req.sameUpToParameters (by decide +kernel) (by decide +kernel) (by decide)
  exact ⟨hsame, by decide +kernel, by decide +kernel⟩

end Received

end CloudStub
