import CloudStub.Proofs.Reply.Fault
import CloudStub.Proofs.RuleFile.Loading

/-!
# Headers in rule files

A response in a rule file declares headers beside its body.  Whatever the body is, each legal header
reaches the message; of several spellings of one name the last in the order of texts counts.  A
response that answers an error is the exception: it takes nothing but the status from the other
fields, so that its headers are lost.

## Main Definitions

- `Http.Response.Carries`: a field stands in a message, and no other field of its name
- `Response.Renders`: there is an answer for a request that is no failure
- `ResponseEntry.DeclaresHeader`: the value that an entry declares for a name

## Main Statements

- `Draft.carries_complete_iff`: the fields of the message of a draft
- `ResponseEntry.carries_headers`: which declared headers the message of an entry carries
- `ResponseEntry.fault_loses_headers`: a file whose only rule loses a header
-/

namespace CloudStub

/-! ### Messages and drafts -/

/-- A field stands in a message, and no other field of its name does. -/
structure Http.Response.Carries (m : Http.Response) (name value : String) : Prop where
  /-- The name stands once. -/
  once : (m.headers.toList.map Prod.fst).count name = 1
  /-- The value stands under the name. -/
  field : (name, .ofText value) ∈ m.headers.toList

namespace Draft

theorem isSome_field?_iff {header : String × String} :
    (field? header).isSome = true ↔ IsLegal header := by
  rw [Option.isSome_iff_exists]
  constructor
  · rintro ⟨_, h⟩
    exact (field?_eq_some_iff.1 h).1
  · exact fun h => ⟨_, field?_eq_some_iff.2 ⟨h, rfl, rfl⟩⟩

instance (header : String × String) : Decidable (IsLegal header) :=
  decidable_of_iff _ isSome_field?_iff

/-- No name stands twice in the message of a draft, so that a field which stands there is the only
one of its name. -/
theorem carries_complete_iff (d : Draft) (name value : String) :
    d.complete.Carries name value ↔ (name, .ofText value) ∈ d.headerSection.toList := by
  refine ⟨fun h => h.field, fun h => ⟨?_, h⟩⟩
  have hnodup : (d.headerSection.toList.map Prod.fst).Nodup := by
    rw [d.isSingle_headerSection.map_fst_toList]
    exact d.isSingle_headerSection.nodup
  exact List.count_eq_one_of_mem hnodup (List.mem_map_of_mem h)

theorem Declares.carries {d : Draft} {name value : String} (h : d.Declares name value) :
    d.complete.Carries name value :=
  (d.carries_complete_iff name value).2 ((d.mem_headerSection ..).2 (.inl ⟨value, h, rfl⟩))

/-- A draft without headers carries what every answer has. -/
theorem carries_complete_of_headers_nil {d : Draft} (h : d.headers = []) (name value : String) :
    d.complete.Carries name value ↔ (name, .ofText value) ∈ d.defaults := by
  have hnone : ∀ text, ¬ d.Declares name text := by
    rintro text ⟨before, spelled, after, hheaders, -⟩
    rw [h] at hheaders
    exact List.append_ne_nil_of_right_ne_nil _ (List.cons_ne_nil _ _) hheaders.symm
  rw [carries_complete_iff, mem_headerSection]
  constructor
  · rintro (⟨text, htext, -⟩ | ⟨-, hmem⟩)
    · exact absurd htext (hnone text)
    · exact hmem
  · exact fun hmem => .inr ⟨hnone, hmem⟩

/-- A draft declares something for the name of each of its legal headers. -/
theorem exists_declares {d : Draft} {header : String × String} (h : header ∈ d.headers)
    (hlegal : IsLegal header) : ∃ value, d.Declares (Ascii.lowerText header.1) value := by
  by_contra hnone
  have hlookup := (d.lookup_fields_eq_none_iff _).2 (not_exists.1 hnone)
  have hmem := List.mem_filterMap.2 ⟨header, h, field?_eq_some_iff.2 ⟨hlegal, rfl, rfl⟩⟩
  simpa using List.lookup_eq_none_iff.1 hlookup _ (List.mem_reverse.2 hmem)

/-- An error answer carries the content type of its format and the name of the server. -/
theorem carries_fault_iff (f : Fault) (format : Format) (name value : String) :
    (f.draft format).complete.Carries name value ↔
      (name, value) = ("content-type", format.contentType) ∨
        (name, value) = ("server", "cloudmock") := by
  have htype : (f.draft format).legalType = format.contentType := by
    have hlegal : Http.IsFieldText format.contentType := by cases format <;> decide
    exact if_pos hlegal
  rw [carries_complete_of_headers_nil rfl, defaults, htype]
  simp [Http.FieldValue.ofText, Utf8.encode_inj]

end Draft

/-! ### Responses -/

namespace Response

/-- There is an answer for a request and an operation that is no failure: a handler makes it, or
there is a draft. -/
inductive Renders (r : Response) (req : Received) (action : Option String) : Prop where
  /-- A handler makes the message. -/
  | handler {f : Received → Http.Response} (h : r.body = .handler f)
  /-- There is a draft. -/
  | draft {d : Draft} (h : r.draft req (actionFor req action) = .ok d)

theorem render_of_draft {r : Response} {req : Received} {action : Option String} {d : Draft}
    (h : r.draft req (actionFor req action) = .ok d) : r.render req action = .draft d := by
  unfold Response.render
  cases hbody : r.body with
  | handler f =>
    rw [Response.draft, hbody] at h
    cases h
  | empty | text | bytes | structured | function =>
    rw [h]

/-- The headers of a draft are the declared ones. -/
theorem headers_draft {r : Response} {req : Received} {action : String} {d : Draft}
    (h : r.draft req action = .ok d) : d.headers = r.headers := by
  unfold Response.draft at h
  cases hbody : r.body with
  | empty | text | bytes =>
    rw [hbody] at h
    exact Except.ok.inj h ▸ rfl
  | function f =>
    rw [hbody] at h
    obtain ⟨p, -, h⟩ := exists_of_bind_eq_ok h
    exact Except.ok.inj h ▸ rfl
  | structured v =>
    rw [hbody] at h
    obtain ⟨p, -, h⟩ := exists_of_bind_eq_ok h
    exact Except.ok.inj h ▸ rfl
  | handler f =>
    rw [hbody] at h
    cases h

end Response

/-! ### Entries -/

namespace ResponseEntry

/-- The value that an entry declares for a name in lower case.  It is that of a legal header with
the name, and no legal header whose spelling is larger has the name. -/
def DeclaresHeader (e : ResponseEntry) (name value : String) : Prop :=
  ∃ spelled, e.headers.get? spelled = some value ∧ Draft.IsLegal (spelled, value) ∧
    Ascii.lowerText spelled = name ∧
      ∀ larger v, e.headers.get? larger = some v → spelled < larger →
        Draft.IsLegal (larger, v) → Ascii.lowerText larger ≠ name

variable {e : ResponseEntry} {name : String}

theorem DeclaresHeader.unique {v w : String} (hv : e.DeclaresHeader name v)
    (hw : e.DeclaresHeader name w) : v = w := by
  obtain ⟨s, hs, hslegal, hsname, hslast⟩ := hv
  obtain ⟨t, ht, htlegal, htname, htlast⟩ := hw
  have hts : ¬ s < t := fun hlt => hslast t w ht hlt htlegal htname
  have hst : ¬ t < s := fun hlt => htlast s v hs hlt hslegal hsname
  obtain rfl : s = t := String.le_antisymm hst hts
  exact Option.some.inj (hs.symm.trans ht)

/-- What a draft with the headers of an entry declares is what the entry declares. -/
theorem declares_iff {d : Draft} (h : d.headers = e.headers.toList) (value : String) :
    d.Declares name value ↔ e.DeclaresHeader name value := by
  constructor
  · rintro ⟨before, spelled, after, hsplit, hlegal, hname, hlast⟩
    rw [h] at hsplit
    have hmem : (spelled, value) ∈ e.headers.toList := by
      rw [hsplit]
      exact List.mem_append_right _ (List.mem_cons_self ..)
    refine ⟨spelled, e.headers.get?_eq_some_iff.2 hmem, hlegal, hname, ?_⟩
    intro larger v hv hlt
    exact hlast _ ((Dict.mem_back_iff hsplit (larger, v)).2 ⟨e.headers.get?_eq_some_iff.1 hv, hlt⟩)
  · rintro ⟨spelled, hvalue, hlegal, hname, hlast⟩
    obtain ⟨before, after, hsplit⟩ := List.append_of_mem (e.headers.get?_eq_some_iff.1 hvalue)
    refine ⟨before, spelled, after, h.trans hsplit, hlegal, hname, fun header hmem => ?_⟩
    obtain ⟨hheader, hlt⟩ := (Dict.mem_back_iff hsplit header).1 hmem
    exact hlast header.1 header.2 (e.headers.get?_eq_some_iff.2 hheader) hlt

/-- One value is declared for the name of each legal header. -/
theorem exists_declaresHeader {spelled given : String}
    (hgiven : e.headers.get? spelled = some given) (hlegal : Draft.IsLegal (spelled, given)) :
    ∃ value, ∀ v, e.DeclaresHeader (Ascii.lowerText spelled) v ↔ v = value := by
  let d : Draft := ⟨200, "", [], e.headers.toList⟩
  have hmem : (spelled, given) ∈ d.headers := e.headers.get?_eq_some_iff.1 hgiven
  obtain ⟨value, hvalue⟩ := Draft.exists_declares hmem hlegal
  have hvalue := (declares_iff rfl value).1 hvalue
  exact ⟨value, fun v => ⟨fun hv => hv.unique hvalue, fun heq => heq ▸ hvalue⟩⟩

/-- A body that an entry spells is made by no handler. -/
theorem SpellsBody.ne_handler {body : Body} (h : e.SpellsBody body) (f : Received → Http.Response) :
    body ≠ .handler f := by
  cases h with
  | @value v _ _ => cases v <;> exact Body.noConfusion
  | base64 _ _ _ => exact Body.noConfusion
  | empty _ _ => exact Body.noConfusion

/-- Which declared headers the message of an entry carries.  For the name of each legal header one
value is declared.  The message of an answer that does not fail has the name once, with this value,
whatever the body is, unless the entry answers an error; then it has it only if every error answer
to the request has it. -/
theorem carries_headers {index : Nat} {declared : Response}
    (hload : e.toResponse index = .ok declared) {req : Received} {action : Option String}
    (hrenders : declared.Renders req action) {spelled given : String}
    (hgiven : e.headers.get? spelled = some given) (hlegal : Draft.IsLegal (spelled, given)) :
    ∃ value, (∀ v, e.DeclaresHeader (Ascii.lowerText spelled) v ↔ v = value) ∧
      ((declared.render req action).toMessage.Carries (Ascii.lowerText spelled) value ↔
        e.fault = none ∨
          (Ascii.lowerText spelled, value) = ("content-type", req.format.contentType) ∨
            (Ascii.lowerText spelled, value) = ("server", "cloudmock")) := by
  obtain ⟨value, hvalue⟩ := exists_declaresHeader hgiven hlegal
  refine ⟨value, hvalue, ?_⟩
  cases toResponse_eq_ok_iff.1 hload with
  | @fault f hfault hbody hbase64 =>
    rw [hfault]
    show Http.Response.Carries (Draft.complete (Fault.draft _ req.format)) _ _ ↔ _
    simp [Draft.carries_fault_iff]
  | @declared hfault body hbody =>
    cases hrenders with
    | handler h => exact absurd h (hbody.ne_handler _)
    | @draft d h =>
      have hdeclares := (declares_iff (Response.headers_draft h) value).2 ((hvalue value).2 rfl)
      rw [Response.render_of_draft h]
      exact iff_of_true hdeclares.carries (.inl hfault)

/-- A name that is spelled in two ways: the message carries the value of the second one. -/
theorem carries_headers_spelledTwice :
    let e : ResponseEntry := { (default : ResponseEntry) with
      body := some (.str "hello"), headers := .ofList [("x-note", "2"), ("X-Note", "1")] }
    let declared : Response := { Response.ofBody (.text "hello") with
      headers := [("X-Note", "1"), ("x-note", "2")] }
    let req := Received.ofRequest 1
      { method := ⟨"GET"⟩, uri := ⟨some "http", some "example.com", "/", none⟩,
        headers := .empty, body := [] }
    (e.toResponse 0 = .ok declared ∧ declared.Renders req none ∧
        e.headers.get? "X-Note" = some "1" ∧ Draft.IsLegal ("X-Note", "1")) ∧
      e.DeclaresHeader "x-note" "2" ∧
        (declared.render req none).toMessage.Carries "x-note" "2" := by
  intro e declared req
  have hload : e.toResponse 0 = .ok declared := rfl
  have hrenders : declared.Renders req none := .draft rfl
  have hlegal : Draft.IsLegal ("X-Note", "1") := by decide +kernel
  have hdeclares : e.DeclaresHeader "x-note" "2" := by
    refine ⟨"x-note", rfl, by decide +kernel, rfl, fun larger v hv hlt => ?_⟩
    have hmem : (larger, v) ∈ [("X-Note", "1"), ("x-note", "2")] := e.headers.get?_eq_some_iff.1 hv
    simp only [List.mem_cons, Prod.mk.injEq, List.not_mem_nil, or_false] at hmem
    rcases hmem with ⟨rfl, -⟩ | ⟨rfl, -⟩ <;> exact absurd hlt (by decide)
  obtain ⟨value, hvalue, hcarries⟩ := carries_headers hload hrenders rfl hlegal
  obtain rfl : "2" = value := (hvalue "2").1 hdeclares
  exact ⟨⟨hload, hrenders, rfl, hlegal⟩, hdeclares, hcarries.2 (.inl rfl)⟩

/-- An error with a header: the header is legal, and no answer has a field of its name. -/
theorem fault_loses_headers :
    let text := "\x7b\"rules\":[\x7b\"response\":\x7b" ++
      "\"error\":\x7b\"code\":\"C\",\"message\":\"m\"\x7d," ++
      "\"headers\":\x7b\"X-A\":\"1\"\x7d\x7d\x7d]\x7d"
    let e : ResponseEntry := { (default : ResponseEntry) with
      fault := some ⟨"C", "m"⟩, headers := .ofList [("X-A", "1")] }
    let file : RuleFile := ⟨none, [⟨default, e⟩]⟩
    let rule : Rule := .new .any (.fault none "C" "m")
    RuleFile.parse text = .ok file ∧ file.toRules = .ok [rule] ∧ e.DeclaresHeader "x-a" "1" ∧
      ∀ req, rule.response.Renders req rule.matcher.action ∧
        ∀ value, ¬ (rule.respond req).Carries "x-a" value := by
  intro text e file rule
  have houtline : Outline.ofText text =
      (.obj [("rules", .arr [.obj [("response", .obj [
        ("error", .obj [("code", .str "C"), ("message", .str "m")] true),
        ("headers", .obj [("X-A", .str "1")] true)] true)] true] true)] true, some []) := by
    unfold Outline.ofText
    simp only [text, String.reduceAppend, String.reduceToList]
    rfl
  have hparse : RuleFile.parse text = .ok file := by
    rw [RuleFile.parse, Schema.parse, houtline]
    rfl
  have hdeclares : e.DeclaresHeader "x-a" "1" := by
    refine ⟨"X-A", rfl, by decide +kernel, rfl, fun larger v hv hlt => ?_⟩
    have hmem : (larger, v) ∈ [("X-A", "1")] := e.headers.get?_eq_some_iff.1 hv
    obtain ⟨rfl, -⟩ := Prod.mk.inj (List.mem_singleton.1 hmem)
    exact absurd hlt (String.lt_irrefl _)
  refine ⟨hparse, rfl, hdeclares, fun req => ⟨.handler rfl, fun value => ?_⟩⟩
  show ¬ Http.Response.Carries (Draft.complete (Fault.draft _ req.format)) _ _
  simp [Draft.carries_fault_iff]

end ResponseEntry

end CloudStub
