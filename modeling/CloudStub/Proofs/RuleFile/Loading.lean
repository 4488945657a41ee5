import CloudStub.Proofs.RuleFile.Bodies

/-!
# Loading rule files

A rule file loads when each of its entries stands for a rule by itself; the rules then come in the
order of the entries.  Otherwise there are no rules but an error, that of the first entry which
stands for no rule.

What an entry stands for and what it is refused with is said here about the parts of the entry, not
about the steps in which they are converted.

## Main Definitions

- `RequestEntry.Spells`, `ResponseEntry.Spells`, `RuleEntry.Spells`: what an entry stands for
- `RequestEntry.Refused`, `ResponseEntry.Refused`, `RuleEntry.Refused`: the error for an entry

## Main Statements

- `RequestEntry.toMatcher_eq_ok_iff`, `RequestEntry.toMatcher_eq_error_iff`: requests
- `ResponseEntry.toResponse_eq_ok_iff`, `ResponseEntry.toResponse_eq_error_iff`: responses
- `RuleFile.rulesFrom_eq_ok_iff`, `RuleFile.rulesFrom_eq_error_iff`: entries in order
- `RuleFile.toRules_outcome`: rule files

## Design Notes

An entry has one error although it may have several faults.  A constructor of `Refused` says which
fault it is about and that the parts which are judged before it are in order.
-/

namespace CloudStub

/-! ### Optional parts -/

section Optional

variable {α β : Type}

theorem whenGiven_eq_ok_iff {f : α → Except LoadError β} {o : Option α} {r : Option β} :
    whenGiven f o = .ok r ↔ Option.Rel (fun a b => f a = .ok b) o r := by
  cases o with
  | none =>
    constructor
    · intro h
      obtain rfl := Except.ok.inj h
      exact .none
    · rintro ⟨⟩
      rfl
  | some a =>
    constructor
    · intro h
      obtain ⟨b, hb, rfl⟩ := exists_of_map_eq_ok h
      exact .some hb
    · rintro (hb | _)
      rw [whenGiven, hb]
      rfl

theorem whenGiven_eq_error_iff {f : α → Except LoadError β} {o : Option α} {e : LoadError} :
    whenGiven f o = .error e ↔ ∃ a, o = some a ∧ f a = .error e := by
  cases o with
  | none => simp [whenGiven]
  | some a =>
    rw [whenGiven]
    cases h : f a <;> simp [h, Except.map]

/-- An optional value can be related to another one when the value, if there is one, can. -/
theorem exists_optionRel_iff {R : α → β → Prop} {o : Option α} :
    (∃ r, Option.Rel R o r) ↔ ∀ a, o = some a → ∃ b, R a b := by
  constructor
  · rintro ⟨_, hrel⟩ a rfl
    cases hrel with
    | some hb => exact ⟨_, hb⟩
  · intro h
    cases o with
    | none => exact ⟨none, .none⟩
    | some a =>
      obtain ⟨b, hb⟩ := h a rfl
      exact ⟨some b, .some hb⟩

end Optional

/-! ### Methods -/

/-- A text that names a method: it is not empty and consists of characters of names. -/
structure Http.IsMethodText (s : String) : Prop where
  /-- It is not empty. -/
  ne_empty : s ≠ ""
  /-- It consists of characters of names. -/
  chars : ∀ c ∈ s.toList, IsNameChar c

/-- The case of a letter does not matter for names. -/
theorem Http.isNameChar_upper (c : Char) : IsNameChar (Ascii.upper c) ↔ IsNameChar c := by
  by_cases hascii : c.toNat < 128
  · obtain ⟨k, rfl⟩ := Ascii.exists_fin hascii
    clear hascii
    revert k
    decide +kernel
  · have hsame : Ascii.upper c = c := by
      have hsmall : ¬ ('a' ≤ c ∧ c ≤ 'z') := by
        rintro ⟨-, hle⟩
        have hle : c.toNat ≤ 122 := UInt32.le_iff_toNat_le.1 hle
        omega
      rw [Ascii.upper, if_neg (by simpa using hsmall)]
    rw [hsame]

theorem Http.isToken_upperText (name : String) :
    isToken (Utf8.encode (Ascii.upperText name)) = true ↔ IsMethodText name := by
  have hempty : Ascii.upperText name ≠ "" ↔ name ≠ "" := by
    rw [Ascii.upperText, Ne, ← String.toList_eq_nil_iff, String.toList_ofList,
      List.map_eq_nil_iff, String.toList_eq_nil_iff]
  have hchars : (∀ c ∈ (Ascii.upperText name).toList, IsNameChar c) ↔
      ∀ c ∈ name.toList, IsNameChar c := by
    rw [Ascii.upperText, String.toList_ofList, List.forall_mem_map]
    exact forall₂_congr fun c _ => isNameChar_upper c
  rw [isToken_encode_iff, hempty, hchars]
  exact ⟨fun h => ⟨h.1, h.2⟩, fun h => ⟨h.ne_empty, h.chars⟩⟩

/-! ### Requests -/

namespace RequestEntry

/-- What a request entry stands for: its pattern and its payload paths are read, its method is put
into capitals, and all else is taken as it is. -/
inductive Spells (e : RequestEntry) : Matcher → Prop where
  /-- All parts are in order. -/
  | intro {pathPattern : Option Pattern} {method : Option Http.Method}
    (hpattern : Option.Rel (fun source p => Pattern.compile source = some p)
      e.pathPattern pathPattern)
    (hmethod : Option.Rel (fun name m => Http.IsMethodText name ∧ m = ⟨Ascii.upperText name⟩)
      e.method method)
    (hpaths : ∀ c ∈ e.payload.toList, ∃ p, JmesPath.Path.compile c.1 = .ok p) :
    Spells e {
      strict := e.strict, hostname := e.hostname, service := e.service, action := e.action
      path := e.path, pathPattern, method, metadataOnly := e.metadataOnly, body := e.body
      params := e.params, payload := e.payload.toList.map fun c => (c.1, .equals c.2)
      predicate := none, limit := e.limit }

/-- The error for a request entry.  The pattern is judged first, then the method, then the payload
paths in the order of their texts. -/
inductive Refused (e : RequestEntry) : LoadError → Prop where
  /-- The pattern is malformed. -/
  | pattern {source : String} (h : e.pathPattern = some source)
    (hbad : Pattern.compile source = none) : Refused e .pattern
  /-- The method is malformed. -/
  | method (hpattern : ∀ source, e.pathPattern = some source → ∃ p, Pattern.compile source = some p)
    {name : String} (h : e.method = some name) (hbad : ¬ Http.IsMethodText name) :
    Refused e (.method name)
  /-- A payload path cannot be used, and all smaller ones can. -/
  | path (hpattern : ∀ source, e.pathPattern = some source → ∃ p, Pattern.compile source = some p)
    (hmethod : ∀ name, e.method = some name → Http.IsMethodText name)
    {path : String} {value : Json} (h : e.payload.get? path = some value)
    {error : JmesPath.PathError} (hbad : JmesPath.Path.compile path = .error error)
    (hsmaller : ∀ other v, e.payload.get? other = some v → other < path →
      ∃ p, JmesPath.Path.compile other = .ok p) :
    Refused e (.path error)

theorem readPattern_eq_ok_iff {source : String} {p : Pattern} :
    readPattern source = .ok p ↔ Pattern.compile source = some p := by
  rw [readPattern]
  cases Pattern.compile source <;> simp

theorem readPattern_eq_error_iff {source : String} {err : LoadError} :
    readPattern source = .error err ↔ Pattern.compile source = none ∧ err = .pattern := by
  rw [readPattern]
  cases Pattern.compile source <;> simp [eq_comm]

theorem readMethod_of_isMethodText {name : String} (h : Http.IsMethodText name) :
    readMethod name = .ok ⟨Ascii.upperText name⟩ := by
  have htoken := (Http.isToken_upperText name).2 h
  have hchars := ((Http.isToken_encode_iff _).1 htoken).2
  rw [readMethod, Http.Method.ofText?, Http.Method.ofBytes?, if_pos htoken,
    Http.asciiText_encode fun c hc => (hchars c hc).toNat_lt]

theorem readMethod_of_not_isMethodText {name : String} (h : ¬ Http.IsMethodText name) :
    readMethod name = .error (.method name) := by
  rw [readMethod, Http.Method.ofText?, Http.Method.ofBytes?,
    if_neg (mt (Http.isToken_upperText name).1 h)]

theorem readMethod_eq_ok_iff {name : String} {m : Http.Method} :
    readMethod name = .ok m ↔ Http.IsMethodText name ∧ m = ⟨Ascii.upperText name⟩ := by
  by_cases h : Http.IsMethodText name
  · simp [readMethod_of_isMethodText h, h, eq_comm]
  · simp [readMethod_of_not_isMethodText h, h]

theorem readMethod_eq_error_iff {name : String} {err : LoadError} :
    readMethod name = .error err ↔ ¬ Http.IsMethodText name ∧ err = .method name := by
  by_cases h : Http.IsMethodText name
  · simp [readMethod_of_isMethodText h, h]
  · simp [readMethod_of_not_isMethodText h, h, eq_comm]

theorem readPayload_eq_ok_iff {c : String × Json} {k : String × Expectation} :
    readPayload c = .ok k ↔
      (∃ p, JmesPath.Path.compile c.1 = .ok p) ∧ (c.1, .equals c.2) = k := by
  rw [readPayload]
  cases JmesPath.Path.compile c.1 <;> simp

theorem readPayload_eq_error_iff {c : String × Json} {err : LoadError} :
    readPayload c = .error err ↔
      ∃ error, JmesPath.Path.compile c.1 = .error error ∧ err = .path error := by
  rw [readPayload]
  cases JmesPath.Path.compile c.1 <;> simp [eq_comm]

/-- The payload conditions are read when all their paths can be used. -/
theorem mapM_readPayload_eq_ok_iff {conditions : List (String × Json)}
    {payload : List (String × Expectation)} :
    conditions.mapM readPayload = .ok payload ↔
      (∀ c ∈ conditions, ∃ p, JmesPath.Path.compile c.1 = .ok p) ∧
        conditions.map (fun c => (c.1, .equals c.2)) = payload := by
  rw [mapM_eq_ok_iff]
  simp only [readPayload_eq_ok_iff]
  rw [List.forall₂_and_left, ← List.forall₂_map_left_iff (R := Eq), List.forall₂_eq_eq_eq]

/-- The payload conditions are refused for the smallest path that cannot be used. -/
theorem mapM_readPayload_eq_error_iff {e : RequestEntry} {err : LoadError} :
    e.payload.toList.mapM readPayload = .error err ↔
      ∃ path value error, e.payload.get? path = some value ∧
        JmesPath.Path.compile path = .error error ∧ err = .path error ∧
          ∀ other v, e.payload.get? other = some v → other < path →
            ∃ p, JmesPath.Path.compile other = .ok p := by
  rw [mapM_eq_error_iff]
  simp only [readPayload_eq_ok_iff, readPayload_eq_error_iff]
  constructor
  · rintro ⟨front, ⟨path, value⟩, back, hsplit, hfront, error, hbad, rfl⟩
    have hmem : (path, value) ∈ e.payload.toList := by
      rw [hsplit]
      exact List.mem_append_right _ (List.mem_cons_self ..)
    refine ⟨path, value, error, e.payload.get?_eq_some_iff.2 hmem, hbad, rfl, ?_⟩
    intro other v hother hlt
    have hmem := (Dict.mem_front_iff hsplit (other, v)).2 ⟨e.payload.get?_eq_some_iff.1 hother, hlt⟩
    obtain ⟨k, hp, -⟩ := hfront _ hmem
    exact hp
  · rintro ⟨path, value, error, hvalue, hbad, rfl, hsmaller⟩
    obtain ⟨front, back, hsplit⟩ := List.append_of_mem (e.payload.get?_eq_some_iff.1 hvalue)
    refine ⟨front, (path, value), back, hsplit, fun c hc => ⟨_, ?_, rfl⟩, error, hbad, rfl⟩
    obtain ⟨hmem, hlt⟩ := (Dict.mem_front_iff hsplit c).1 hc
    exact hsmaller c.1 c.2 (e.payload.get?_eq_some_iff.2 hmem) hlt

theorem toMatcher_eq_ok_iff {e : RequestEntry} {m : Matcher} :
    e.toMatcher = .ok m ↔ e.Spells m := by
  rw [toMatcher, bind_eq_ok_iff]
  simp only [bind_eq_ok_iff, whenGiven_eq_ok_iff, mapM_readPayload_eq_ok_iff,
    readPattern_eq_ok_iff, readMethod_eq_ok_iff]
  constructor
  · rintro ⟨pathPattern, hpattern, method, hmethod, payload, ⟨hpaths, rfl⟩, h⟩
    obtain rfl := Except.ok.inj h
    exact .intro hpattern hmethod hpaths
  · rintro ⟨hpattern, hmethod, hpaths⟩
    exact ⟨_, hpattern, _, hmethod, _, ⟨hpaths, rfl⟩, rfl⟩

theorem toMatcher_eq_error_iff {e : RequestEntry} {err : LoadError} :
    e.toMatcher = .error err ↔ e.Refused err := by
  rw [toMatcher, bind_eq_error_iff]
  simp only [bind_eq_error_iff, whenGiven_eq_ok_iff, whenGiven_eq_error_iff,
    mapM_readPayload_eq_error_iff, readPattern_eq_ok_iff, readPattern_eq_error_iff,
    readMethod_eq_ok_iff, readMethod_eq_error_iff]
  have hpattern : (∃ p, Option.Rel (fun source p => Pattern.compile source = some p)
      e.pathPattern p) ↔ ∀ source, e.pathPattern = some source →
        ∃ p, Pattern.compile source = some p := exists_optionRel_iff
  have hmethod : (∃ m, Option.Rel
      (fun name (m : Http.Method) => Http.IsMethodText name ∧ m = ⟨Ascii.upperText name⟩)
      e.method m) ↔ ∀ name, e.method = some name → Http.IsMethodText name := by
    rw [exists_optionRel_iff]
    simp
  constructor
  · rintro (⟨source, hsource, hbad, rfl⟩ | ⟨_, hp, ⟨name, hname, hbad, rfl⟩ | ⟨_, hm, hpayload⟩⟩)
    · exact .pattern hsource hbad
    · exact .method (hpattern.1 ⟨_, hp⟩) hname hbad
    · rcases hpayload with ⟨path, value, error, hvalue, hbad, rfl, hsmaller⟩ | ⟨_, -, hok⟩
      · exact .path (hpattern.1 ⟨_, hp⟩) (hmethod.1 ⟨_, hm⟩) hvalue hbad hsmaller
      · cases hok
  · intro h
    cases h with
    | pattern hsource hbad => exact .inl ⟨_, hsource, hbad, rfl⟩
    | method hp hname hbad =>
      obtain ⟨p, hp⟩ := hpattern.2 hp
      exact .inr ⟨p, hp, .inl ⟨_, hname, hbad, rfl⟩⟩
    | path hp hm hvalue hbad hsmaller =>
      obtain ⟨p, hp⟩ := hpattern.2 hp
      obtain ⟨m, hm⟩ := hmethod.2 hm
      exact .inr ⟨p, hp, .inr ⟨m, hm, .inl ⟨_, _, _, hvalue, hbad, rfl, hsmaller⟩⟩⟩

end RequestEntry

/-! ### Responses -/

namespace ResponseEntry

/-- The bytes in Base64, with blanks around them. -/
def base64Bytes (s : String) : Except Base64.DecodeError Bytes :=
  Base64.decode (Utf8.encode (String.ofList (Cut.trim s.toList)))

/-- The body that a response entry without an error stands for. -/
inductive SpellsBody (e : ResponseEntry) : Body → Prop where
  /-- A text stands for itself, any other value is structured. -/
  | value {v : Json} (h : e.body = some v) (hbase64 : e.base64 = none) : SpellsBody e (.ofValue v)
  /-- Base64 stands for its bytes. -/
  | base64 {s : String} {b : Bytes} (hbody : e.body = none) (h : e.base64 = some s)
    (hbytes : base64Bytes s = .ok b) : SpellsBody e (.bytes b)
  /-- Nothing is given. -/
  | empty (hbody : e.body = none) (hbase64 : e.base64 = none) : SpellsBody e .empty

/-- What a response entry stands for. -/
inductive Spells (e : ResponseEntry) : Response → Prop where
  /-- An error without a body beside it. -/
  | fault {f : FaultEntry} (h : e.fault = some f) (hbody : e.body = none)
    (hbase64 : e.base64 = none) : Spells e (.fault e.status f.code f.message)
  /-- A response with what is declared. -/
  | declared (h : e.fault = none) {body : Body} (hbody : e.SpellsBody body) :
    Spells e {
      status := e.status, contentType := e.contentType, encoding := e.encoding, body
      unwrapped := e.unwrapped, rootTag := e.rootTag, headers := e.headers.toList }

/-- The error for a response entry at an index. -/
inductive Refused (e : ResponseEntry) (index : Nat) : LoadError → Prop where
  /-- The body is given twice. -/
  | bothForms (hbody : e.body ≠ none) (hbase64 : e.base64 ≠ none) :
    Refused e index (.conflict index .bothForms)
  /-- A body is given, in one of the forms, beside an error. -/
  | besideFault (hfault : e.fault ≠ none)
    (h : e.body ≠ none ∧ e.base64 = none ∨ e.body = none ∧ e.base64 ≠ none) :
    Refused e index (.conflict index .besideFault)
  /-- The body is not Base64. -/
  | base64 (hfault : e.fault = none) (hbody : e.body = none) {s : String} (h : e.base64 = some s)
    {error : Base64.DecodeError} (hbad : base64Bytes s = .error error) :
    Refused e index (.base64 error)

variable {e : ResponseEntry} {index : Nat}

theorem SpellsBody.toBody {body : Body} (h : e.SpellsBody body) : e.toBody = .ok body := by
  cases h with
  | @value v h hbase64 =>
    rw [ResponseEntry.toBody, h]
    cases v <;> rfl
  | base64 hbody h hbytes =>
    rw [ResponseEntry.toBody, hbody, h]
    unfold base64Bytes at hbytes
    simp only [readBase64, hbytes]
    rfl
  | empty hbody hbase64 => rw [ResponseEntry.toBody, hbody, hbase64]

theorem Spells.toResponse {r : Response} (h : e.Spells r) : e.toResponse index = .ok r := by
  cases h with
  | fault h hbody hbase64 => simp [ResponseEntry.toResponse, h, hbody, hbase64]
  | declared h hbody =>
    have hone : (e.body.isSome && e.base64.isSome) = false := by
      cases hbody with
      | value _ hbase64 => simp [hbase64]
      | base64 hnone => simp [hnone]
      | empty hnone => simp [hnone]
    rw [ResponseEntry.toResponse, hone, h, hbody.toBody]
    rfl

theorem Refused.toResponse {err : LoadError} (h : e.Refused index err) :
    e.toResponse index = .error err := by
  cases h with
  | bothForms hbody hbase64 =>
    simp [ResponseEntry.toResponse, Option.isSome_iff_ne_none, hbody, hbase64]
  | besideFault hfault h =>
    obtain ⟨f, hf⟩ := Option.ne_none_iff_exists'.1 hfault
    rcases h with ⟨hbody, hbase64⟩ | ⟨hbody, hbase64⟩
    · simp [ResponseEntry.toResponse, Option.isSome_iff_ne_none, hf, hbody, hbase64]
    · simp [ResponseEntry.toResponse, Option.isSome_iff_ne_none, hf, hbody, hbase64]
  | @base64 hfault hbody s h error hbad =>
    have htoBody : e.toBody = .error (.base64 error) := by
      rw [ResponseEntry.toBody, hbody, h]
      unfold base64Bytes at hbad
      simp only [readBase64, hbad]
      rfl
    rw [ResponseEntry.toResponse, hbody, hfault, htoBody]
    rfl

/-- An entry stands for a response or is refused. -/
theorem spells_or_refused (e : ResponseEntry) (index : Nat) :
    (∃ r, e.Spells r) ∨ ∃ err, e.Refused index err := by
  cases hbody : e.body with
  | some v =>
    have hsome : e.body ≠ none := by simp [hbody]
    cases hbase64 : e.base64 with
    | some s => exact .inr ⟨_, .bothForms hsome (by simp [hbase64])⟩
    | none =>
      cases hfault : e.fault with
      | some f => exact .inr ⟨_, .besideFault (by simp [hfault]) (.inl ⟨hsome, hbase64⟩)⟩
      | none => exact .inl ⟨_, .declared hfault (.value hbody hbase64)⟩
  | none =>
    cases hfault : e.fault with
    | some f =>
      cases hbase64 : e.base64 with
      | some s =>
        exact .inr ⟨_, .besideFault (by simp [hfault]) (.inr ⟨hbody, by simp [hbase64]⟩)⟩
      | none => exact .inl ⟨_, .fault hfault hbody hbase64⟩
    | none =>
      cases hbase64 : e.base64 with
      | none => exact .inl ⟨_, .declared hfault (.empty hbody hbase64)⟩
      | some s =>
        cases hbytes : base64Bytes s with
        | ok b => exact .inl ⟨_, .declared hfault (.base64 hbody hbase64 hbytes)⟩
        | error error => exact .inr ⟨_, .base64 hfault hbody hbase64 hbytes⟩

theorem toResponse_eq_ok_iff {r : Response} : e.toResponse index = .ok r ↔ e.Spells r := by
  refine ⟨fun h => ?_, Spells.toResponse⟩
  rcases e.spells_or_refused index with ⟨r', hspells⟩ | ⟨err, hrefused⟩
  · obtain rfl := Except.ok.inj (h.symm.trans hspells.toResponse)
    exact hspells
  · rw [hrefused.toResponse] at h
    cases h

theorem toResponse_eq_error_iff {err : LoadError} :
    e.toResponse index = .error err ↔ e.Refused index err := by
  refine ⟨fun h => ?_, Refused.toResponse⟩
  rcases e.spells_or_refused index with ⟨r, hspells⟩ | ⟨err', hrefused⟩
  · rw [hspells.toResponse] at h
    cases h
  · obtain rfl := Except.error.inj (h.symm.trans hrefused.toResponse)
    exact hrefused

/-- The index of a conflict is that of the entry. -/
theorem Refused.index_eq {position : Nat} {c : BodyConflict}
    (h : e.Refused index (.conflict position c)) : position = index := by
  cases h <;> rfl

end ResponseEntry

/-! ### Rules -/

namespace RuleEntry

/-- What an entry stands for: a rule with its matcher and its response that has not claimed a
request. -/
inductive Spells (e : RuleEntry) : Rule → Prop where
  /-- Both halves are in order. -/
  | intro {m : Matcher} {r : Response} (hrequest : e.request.Spells m)
    (hresponse : e.response.Spells r) : Spells e ⟨m, r, 0⟩

/-- The error for an entry at an index.  The request is judged before the response. -/
inductive Refused (e : RuleEntry) (index : Nat) : LoadError → Prop where
  /-- The request is refused. -/
  | request {err : LoadError} (h : e.request.Refused err) : Refused e index err
  /-- The request is in order and the response is refused. -/
  | response {m : Matcher} (hrequest : e.request.Spells m) {err : LoadError}
    (h : e.response.Refused index err) : Refused e index err

variable {e : RuleEntry} {index : Nat}

theorem toRule_eq_ok_iff {rule : Rule} : e.toRule index = .ok rule ↔ e.Spells rule := by
  rw [toRule, bind_eq_ok_iff]
  simp only [bind_eq_ok_iff, RequestEntry.toMatcher_eq_ok_iff, ResponseEntry.toResponse_eq_ok_iff]
  constructor
  · rintro ⟨m, hrequest, r, hresponse, h⟩
    obtain rfl := Except.ok.inj h
    exact .intro hrequest hresponse
  · rintro ⟨hrequest, hresponse⟩
    exact ⟨_, hrequest, _, hresponse, rfl⟩

theorem toRule_eq_error_iff {err : LoadError} :
    e.toRule index = .error err ↔ e.Refused index err := by
  rw [toRule, bind_eq_error_iff]
  simp only [bind_eq_error_iff, RequestEntry.toMatcher_eq_ok_iff,
    RequestEntry.toMatcher_eq_error_iff, ResponseEntry.toResponse_eq_error_iff]
  constructor
  · rintro (h | ⟨m, hrequest, h | ⟨r, -, hok⟩⟩)
    · exact .request h
    · exact .response hrequest h
    · cases hok
  · rintro (h | ⟨hrequest, h⟩)
    · exact .inl h
    · exact .inr ⟨_, hrequest, .inl h⟩

/-- A conflict names the index of the entry. -/
theorem Refused.index_eq {position : Nat} {c : BodyConflict}
    (h : e.Refused index (.conflict position c)) : position = index := by
  cases h with
  | request h => cases h
  | response _ h => exact h.index_eq

end RuleEntry

/-! ### Files -/

namespace RuleFile

/-- Entries load when each of them stands for a rule. -/
theorem rulesFrom_eq_ok_iff {index : Nat} {entries : List RuleEntry} {rules : List Rule} :
    rulesFrom index entries = .ok rules ↔ List.Forall₂ RuleEntry.Spells entries rules := by
  induction entries generalizing index rules with
  | nil => cases rules <;> simp [rulesFrom]
  | cons e rest ih =>
    rw [rulesFrom, bind_eq_ok_iff]
    simp only [bind_eq_ok_iff, RuleEntry.toRule_eq_ok_iff, ih, List.forall₂_cons_left_iff]
    constructor
    · rintro ⟨rule, hrule, more, hmore, h⟩
      exact ⟨rule, more, hrule, hmore, (Except.ok.inj h).symm⟩
    · rintro ⟨rule, more, hrule, hmore, rfl⟩
      exact ⟨rule, hrule, more, hmore, rfl⟩

/-- Entries are refused for the first of them that stands for no rule. -/
theorem rulesFrom_eq_error_iff {index : Nat} {entries : List RuleEntry} {err : LoadError} :
    rulesFrom index entries = .error err ↔ ∃ front e back, entries = front ++ e :: back ∧
      (∀ d ∈ front, ∃ rule, d.Spells rule) ∧ e.Refused (index + front.length) err := by
  induction entries generalizing index with
  | nil => simp [rulesFrom]
  | cons e rest ih =>
    rw [rulesFrom, bind_eq_error_iff]
    simp only [bind_eq_error_iff, RuleEntry.toRule_eq_ok_iff, RuleEntry.toRule_eq_error_iff, ih]
    constructor
    · rintro (h | ⟨rule, hrule, ⟨front, d, back, rfl, hfront, hd⟩ | ⟨more, -, hok⟩⟩)
      · exact ⟨[], e, rest, rfl, by simp, h⟩
      · refine ⟨e :: front, d, back, rfl, List.forall_mem_cons.2 ⟨⟨rule, hrule⟩, hfront⟩, ?_⟩
        rwa [List.length_cons, Nat.add_comm front.length, ← Nat.add_assoc]
      · cases hok
    · rintro ⟨front, d, back, hsplit, hfront, hd⟩
      cases front with
      | nil =>
        obtain ⟨rfl, rfl⟩ := List.cons.inj hsplit
        exact .inl hd
      | cons c front =>
        obtain ⟨rfl, rfl⟩ := List.cons.inj hsplit
        obtain ⟨⟨rule, hrule⟩, hfront⟩ := List.forall_mem_cons.1 hfront
        rw [List.length_cons, Nat.add_comm front.length, ← Nat.add_assoc] at hd
        exact .inr ⟨rule, hrule, .inl ⟨front, d, back, rfl, hfront, hd⟩⟩

/-- What loading a rule file yields.  An entry by itself, at whatever index, is converted to the
rule that it stands for, or to the error that it is refused with there.  A file loads exactly when
each of its entries stands for a rule; the rules are then those of the entries, one for each, in
order.  Otherwise the error is that of the first entry which stands for no rule, at the position of
this entry in the file, and a conflict names this position. -/
theorem toRules_outcome (f : RuleFile) :
    (∀ (e : RuleEntry) (index : Nat), (∀ rule, e.toRule index = .ok rule ↔ e.Spells rule) ∧
        ∀ err, e.toRule index = .error err ↔ e.Refused index err) ∧
      ((∃ rules, f.toRules = .ok rules) ↔ ∀ e ∈ f.rules, ∃ rule, e.Spells rule) ∧
      (∀ rules, f.toRules = .ok rules ↔ List.Forall₂ RuleEntry.Spells f.rules rules) ∧
      ∀ err, f.toRules = .error err ↔ ∃ front e back, f.rules = front ++ e :: back ∧
        (∀ d ∈ front, ∃ rule, d.Spells rule) ∧ e.Refused front.length err ∧
          ∀ position c, err = .conflict position c → position = front.length := by
  refine ⟨fun e index => ⟨fun _ => RuleEntry.toRule_eq_ok_iff,
    fun _ => RuleEntry.toRule_eq_error_iff⟩, ?_, fun _ => rulesFrom_eq_ok_iff, fun err => ?_⟩
  · rw [← exists_forall₂_iff]
    exact exists_congr fun _ => rulesFrom_eq_ok_iff
  · rw [toRules, rulesFrom_eq_error_iff]
    simp only [Nat.zero_add]
    constructor
    · rintro ⟨front, e, back, hsplit, hfront, hrefused⟩
      refine ⟨front, e, back, hsplit, hfront, hrefused, ?_⟩
      rintro position c rfl
      exact hrefused.index_eq
    · rintro ⟨front, e, back, hsplit, hfront, hrefused, -⟩
      exact ⟨front, e, back, hsplit, hfront, hrefused⟩

end RuleFile

end CloudStub
