import CloudStub.Proofs.Http.Fields
import CloudStub.Proofs.Request.Format

/-!
# The scope of a signed request

A scope is cut out of an authorization field at the first mark: the longest run of visible
characters behind it that ends at the edge of a word.  Such a run may reach beyond the parts of the
credential, into whatever follows without a space.  It never ends before the last of the parts,
since these end at the edge of a word themselves; so region and service, which stand behind the
second and the third slash, are always those of the credential.

## Main Definitions

- `Credential.Fits`: the front parts of a text that may be its scope
- `Credential.Parts`: the parts of a credential, and `Parts.Legal`: the characters they consist of
- `Credential.Precedes`, `Credential.Follows`: the texts that may stand around a credential

## Main Statements

- `Credential.fits_of_longest?`, `Credential.longest?_of_fits`: the scope is the longest part that
  fits
- `Credential.scope?_append`: the first mark decides
- `Credential.regionAndService?_quoted`: region and service of a credential in other text
- `Received.region_and_service`: the same for requests, where both are found or none
-/

namespace CloudStub

/-! ### Parts between separators -/

namespace Cut

/-- A part without separators ends at the first one. -/
theorem fields_append_cons {sep : Char} {part : List Char} (h : sep ∉ part) (rest : List Char) :
    fields sep (part ++ sep :: rest) = part :: fields sep rest := by
  induction part with
  | nil => simp [fields]
  | cons c cs ih =>
    obtain ⟨hc, hcs⟩ := List.ne_and_not_mem_of_not_mem_cons h
    rw [List.cons_append, fields, if_neg (Ne.symm hc), ih hcs]

end Cut

/-! ### Characters -/

/-- A letter, a digit or an underscore. -/
def Credential.IsWordChar (c : Char) : Prop := c.isAlphanum = true ∨ c = '_'

/-- Printable ASCII without space and slash. -/
def Credential.IsPartChar (c : Char) : Prop := 33 ≤ c.toNat ∧ c.toNat ≤ 126 ∧ c ≠ '/'

instance : DecidablePred Credential.IsWordChar := fun c => by
  unfold Credential.IsWordChar
  infer_instance

instance : DecidablePred Credential.IsPartChar := fun c => by
  unfold Credential.IsPartChar
  infer_instance

namespace Credential

theorem isWord_iff {c : Char} (h : c.toNat < 128) : Unicode.isWord c = true ↔ IsWordChar c := by
  obtain ⟨k, rfl⟩ := Ascii.exists_fin h
  clear h
  revert k
  decide +kernel

/-- A visible character, which a field value may have. -/
theorem IsPartChar.visible {c : Char} (h : IsPartChar c) :
    Unicode.isBlank c = false ∧ Http.IsReadableChar c := by
  obtain ⟨k, rfl⟩ := Ascii.exists_fin (Nat.lt_of_le_of_lt h.2.1 (by decide))
  revert k
  decide +kernel

theorem IsWordChar.toNat_lt {c : Char} (h : IsWordChar c) : c.toNat < 128 := by
  rcases h with halnum | rfl
  · exact Http.IsNameChar.toNat_lt (Or.inl halnum)
  · decide

theorem IsWordChar.isPartChar {c : Char} (h : IsWordChar c) : IsPartChar c := by
  obtain ⟨k, rfl⟩ := Ascii.exists_fin h.toNat_lt
  revert k
  decide +kernel

/-! ### The longest scope -/

/-- A front part of a text that may be its scope: it has a last character, which forms the edge of
a word with what follows, and all its characters are visible. -/
def Fits (cs scope : List Char) : Prop :=
  ∃ front last back, cs = front ++ last :: back ∧ scope = front ++ [last] ∧
    (∀ c ∈ scope, Unicode.isBlank c = false) ∧ isEdge last back.head? = true

theorem Fits.isPrefix {cs scope : List Char} (h : Fits cs scope) : scope <+: cs := by
  obtain ⟨front, last, back, rfl, rfl, -, -⟩ := h
  exact ⟨back, by simp⟩

theorem not_fits_nil (scope : List Char) : ¬ Fits [] scope := by
  rintro ⟨front, last, back, hcs, -, -, -⟩
  simp at hcs

theorem fits_singleton {c : Char} {rest : List Char} (hc : Unicode.isBlank c = false)
    (hedge : isEdge c rest.head? = true) : Fits (c :: rest) [c] :=
  ⟨[], c, rest, rfl, rfl, by simpa using hc, hedge⟩

theorem Fits.cons {c : Char} {rest more : List Char} (hc : Unicode.isBlank c = false)
    (h : Fits rest more) : Fits (c :: rest) (c :: more) := by
  obtain ⟨front, last, back, rfl, rfl, hvisible, hedge⟩ := h
  exact ⟨c :: front, last, back, rfl, rfl, List.forall_mem_cons.2 ⟨hc, hvisible⟩, hedge⟩

/-- A front part of a longer text is its first character alone, or goes on behind it. -/
theorem Fits.cases {c : Char} {rest scope : List Char} (h : Fits (c :: rest) scope) :
    Unicode.isBlank c = false ∧
      (isEdge c rest.head? = true ∧ scope = [c] ∨ ∃ more, scope = c :: more ∧ Fits rest more) := by
  obtain ⟨front, last, back, hcs, rfl, hvisible, hedge⟩ := h
  cases front with
  | nil =>
    obtain ⟨rfl, rfl⟩ := List.cons.inj hcs
    exact ⟨hvisible c (by simp), Or.inl ⟨hedge, rfl⟩⟩
  | cons d front =>
    obtain ⟨rfl, rfl⟩ := List.cons.inj hcs
    obtain ⟨hd, hvisible⟩ := List.forall_mem_cons.1 hvisible
    exact ⟨hd, Or.inr ⟨_, rfl, front, last, back, rfl, rfl, hvisible, hedge⟩⟩

theorem fits_of_longest? {cs scope : List Char} (h : longest? cs = some scope) :
    Fits cs scope := by
  induction cs generalizing scope with
  | nil => cases h
  | cons c rest ih =>
    rw [longest?] at h
    split at h
    · cases h
    · rename_i hblank
      rw [Bool.not_eq_true] at hblank
      cases hrest : longest? rest with
      | some more =>
        rw [hrest] at h
        obtain rfl := Option.some.inj h
        exact (ih hrest).cons hblank
      | none =>
        simp only [hrest, Option.ite_none_right_eq_some, Option.some.injEq] at h
        obtain ⟨hedge, rfl⟩ := h
        exact fits_singleton hblank hedge

/-- Where a part fits, there is a scope, and it is no shorter than that part. -/
theorem longest?_of_fits {cs part : List Char} (h : Fits cs part) :
    ∃ scope, longest? cs = some scope ∧ part.length ≤ scope.length := by
  induction cs generalizing part with
  | nil => exact absurd h (not_fits_nil part)
  | cons c rest ih =>
    obtain ⟨hblank, hpart⟩ := h.cases
    rw [longest?, if_neg (by simp [hblank])]
    rcases hpart with ⟨hedge, rfl⟩ | ⟨more, rfl, hmore⟩
    · -- The part is the first character alone; the scope may still go on.
      cases longest? rest with
      | some scope => exact ⟨c :: scope, rfl, by simp⟩
      | none => exact ⟨[c], if_pos hedge, Nat.le_refl _⟩
    · obtain ⟨scope, hscope, hlength⟩ := ih hmore
      refine ⟨c :: scope, by rw [hscope], ?_⟩
      simpa using hlength

/-! ### The first mark -/

theorem behind?_eq_some_iff {piece cs rest : List Char} :
    behind? piece cs = some rest ↔ cs = piece ++ rest := by
  induction piece generalizing cs with
  | nil => simp [behind?]
  | cons m ms ih =>
    cases cs with
    | nil => simp [behind?]
    | cons c cs =>
      rw [behind?]
      split
      · rename_i heq
        subst heq
        simp [ih]
      · rename_i hne
        simp [Ne.symm hne]

/-- No mark begins in front of the first one: it would have to reach into the first one, but only
the first character of a mark is its capital. -/
theorem behind?_eq_none {before : List Char} (hne : before ≠ []) (h : ¬ mark <:+: before)
    (after : List Char) : behind? mark (before ++ (mark ++ after)) = none := by
  rw [Option.eq_none_iff_forall_ne_some]
  intro rest hrest
  rw [behind?_eq_some_iff] at hrest
  rcases List.append_eq_append_iff.1 hrest with ⟨tail, hmark, htail⟩ | ⟨tail, hbefore, -⟩
  · obtain ⟨b, bs, rfl⟩ := List.exists_cons_of_ne_nil hne
    cases tail with
    | nil =>
      rw [List.append_nil] at hmark
      exact h (hmark ▸ List.infix_rfl)
    | cons t ts =>
      -- The mark would have its capital a second time.
      have hmark : 'C' :: "redential=".toList = (b :: bs) ++ t :: ts := hmark
      have htail : 'C' :: ("redential=".toList ++ after) = t :: (ts ++ rest) := htail
      have hcapital : 'C' ∈ "redential=".toList := by
        rw [(List.cons.inj hmark).2, ← (List.cons.inj htail).1]
        exact List.mem_append_right _ (List.mem_cons_self ..)
      exact absurd hcapital (by decide)
  · exact h ⟨[], tail, by simp [hbefore]⟩

/-- The first mark decides, when a scope follows it. -/
theorem scope?_append {before after scope : List Char} (h : ¬ mark <:+: before)
    (hscope : longest? after = some scope) : scope? (before ++ (mark ++ after)) = some scope := by
  induction before with
  | nil =>
    have hfront : behind? mark ('C' :: ("redential=".toList ++ after)) = some after :=
      behind?_eq_some_iff.2 rfl
    have hmark : [] ++ (mark ++ after) = 'C' :: ("redential=".toList ++ after) := rfl
    rw [hmark, scope?, hfront, Option.bind_some, hscope]
  | cons c rest ih =>
    have hnone := behind?_eq_none (List.cons_ne_nil c rest) h after
    rw [List.cons_append] at hnone
    rw [List.cons_append, scope?, hnone]
    exact ih fun hrest => h (List.infix_cons hrest)

/-! ### The parts of a credential -/

/-- The parts of a credential. -/
structure Parts where
  /-- The key that signs. -/
  key : String
  /-- The date of the signature. -/
  date : String
  /-- The region that is asked. -/
  region : String
  /-- The service that is asked. -/
  service : String
  /-- What ends a scope. -/
  suffix : String

/-- The parts as they are written, with slashes between them. -/
def Parts.text (p : Parts) : String :=
  p.key ++ "/" ++ p.date ++ "/" ++ p.region ++ "/" ++ p.service ++ "/" ++ p.suffix

/-- The characters of the parts; all but the last part may be empty. -/
structure Parts.Legal (p : Parts) : Prop where
  /-- The key is visible. -/
  key : ∀ c ∈ p.key.toList, IsPartChar c
  /-- So is the date. -/
  date : ∀ c ∈ p.date.toList, IsPartChar c
  /-- So is the region. -/
  region : ∀ c ∈ p.region.toList, IsPartChar c
  /-- So is the service. -/
  service : ∀ c ∈ p.service.toList, IsPartChar c
  /-- The last part is not empty. -/
  suffix_ne : p.suffix ≠ ""
  /-- The last part is a word. -/
  suffix : ∀ c ∈ p.suffix.toList, IsWordChar c

/-- What stands in front of the first mark. -/
structure Precedes (before : String) : Prop where
  /-- The text can be read. -/
  readable : ∀ c ∈ before.toList, Http.IsReadableChar c
  /-- It has no mark of its own. -/
  unmarked : ¬ "Credential=".toList <:+: before.toList

/-- What stands behind the parts: nothing, or something that does not go on with the last word. -/
structure Follows (after : String) : Prop where
  /-- The text can be read. -/
  readable : ∀ c ∈ after.toList, Http.IsReadableChar c
  /-- It does not begin with a character of a word. -/
  ends : ∀ c, after.toList.head? = some c → ¬ IsWordChar c

theorem Parts.toList_text (p : Parts) :
    p.text.toList = p.key.toList ++ '/' :: (p.date.toList ++ '/' :: (p.region.toList ++
      '/' :: (p.service.toList ++ '/' :: p.suffix.toList))) := by
  simp [Parts.text]

/-- Every character of the parts is a slash or a character of one part. -/
theorem Parts.Legal.mem {p : Parts} (h : p.Legal) {c : Char} (hc : c ∈ p.text.toList) :
    c = '/' ∨ IsPartChar c := by
  rw [p.toList_text] at hc
  simp only [List.mem_append, List.mem_cons] at hc
  rcases hc with hc | rfl | hc | rfl | hc | rfl | hc | rfl | hc
  · exact Or.inr (h.key c hc)
  · exact Or.inl rfl
  · exact Or.inr (h.date c hc)
  · exact Or.inl rfl
  · exact Or.inr (h.region c hc)
  · exact Or.inl rfl
  · exact Or.inr (h.service c hc)
  · exact Or.inl rfl
  · exact Or.inr (h.suffix c hc).isPartChar

theorem isEdge_of_follows {last : Char} (hlast : IsWordChar last) {after : String}
    (h : Follows after) : isEdge last after.toList.head? = true := by
  have hword : Unicode.isWord last = true := (isWord_iff hlast.toNat_lt).2 hlast
  have hnext : (after.toList.head?.map Unicode.isWord).getD false = false := by
    cases hhead : after.toList.head? with
    | none => rfl
    | some c =>
      have hc : c ∈ after.toList := List.mem_of_mem_head? hhead
      have hword := mt (isWord_iff (h.readable c hc).toNat_lt).1 (h.ends c hhead)
      simpa using hword
  rw [isEdge, hword, hnext]
  rfl

/-- The parts of a credential may be a scope, whatever follows them. -/
theorem Parts.Legal.fits {p : Parts} (h : p.Legal) {after : String} (hafter : Follows after) :
    Fits (p.text.toList ++ after.toList) p.text.toList := by
  have hvisible : ∀ c ∈ p.text.toList, Unicode.isBlank c = false := by
    intro c hc
    rcases h.mem hc with rfl | hpart
    · decide
    · exact hpart.visible.1
  -- The last character is that of the last part.
  obtain ⟨word, last, hsuffix⟩ := (List.eq_nil_or_concat p.suffix.toList).resolve_left
    (mt String.toList_eq_nil_iff.1 h.suffix_ne)
  have hlast : IsWordChar last := h.suffix last (by simp [hsuffix])
  obtain ⟨front, hfront⟩ : ∃ front, p.text.toList = front ++ [last] := by
    refine ⟨p.key.toList ++ '/' :: (p.date.toList ++ '/' :: (p.region.toList ++
      '/' :: (p.service.toList ++ '/' :: word))), ?_⟩
    rw [p.toList_text, hsuffix]
    simp
  refine ⟨front, last, after.toList, ?_, hfront, hvisible, isEdge_of_follows hlast hafter⟩
  rw [hfront, List.append_assoc]
  rfl

/-- Region and service of a credential behind the first mark, whatever follows its parts. -/
theorem regionAndService?_quoted {p : Parts} (h : p.Legal) {before after : String}
    (hbefore : Precedes before) (hafter : Follows after) :
    regionAndService? (before ++ "Credential=" ++ p.text ++ after) =
      some (p.region, p.service) := by
  -- The scope is no shorter than the parts, so it begins with all of them.
  obtain ⟨scope, hscope, hlength⟩ := longest?_of_fits (h.fits hafter)
  have hprefix : p.text.toList <+: scope :=
    List.prefix_of_prefix_length_le (List.prefix_append ..) (fits_of_longest? hscope).isPrefix
      hlength
  obtain ⟨more, rfl⟩ := hprefix
  have htext : (before ++ "Credential=" ++ p.text ++ after).toList =
      before.toList ++ (mark ++ (p.text.toList ++ after.toList)) := by
    simp only [String.toList_append, List.append_assoc]
    rfl
  have hslash {part : String} (hpart : ∀ c ∈ part.toList, IsPartChar c) : '/' ∉ part.toList :=
    fun hc => (hpart '/' hc).2.2 rfl
  have hfields : Cut.fields '/' (p.text.toList ++ more) =
      p.key.toList :: p.date.toList :: p.region.toList :: p.service.toList ::
        Cut.fields '/' (p.suffix.toList ++ more) := by
    rw [p.toList_text]
    simp only [List.append_assoc, List.cons_append]
    rw [Cut.fields_append_cons (hslash h.key), Cut.fields_append_cons (hslash h.date),
      Cut.fields_append_cons (hslash h.region), Cut.fields_append_cons (hslash h.service)]
  rw [regionAndService?, htext, scope?_append hbefore.unmarked hscope]
  simp only [Option.bind_eq_bind, Option.bind_some, hfields, String.ofList_toList]

end Credential

/-! ### Requests -/

namespace Received

/-- A signed request is for the region and the service of its credential: the one behind the first
mark of its authorization, whatever stands in front of the mark and whatever follows.  Whatever the
authorization is, either both region and service are found or none of them. -/
theorem region_and_service (seq : Nat) (req : Http.Request) :
    (∀ (p : Credential.Parts) (before after : String), p.Legal → Credential.Precedes before →
      Credential.Follows after →
      req.headers.first? "authorization" =
        some (Utf8.encode (before ++ "Credential=" ++ p.text ++ after)) →
      (ofRequest seq req).region = some p.region ∧
        (ofRequest seq req).service = some p.service) ∧
    ((ofRequest seq req).region.isSome = (ofRequest seq req).service.isSome) := by
  have hregion : (ofRequest seq req).region = (scopeOf req).map (·.1) := rfl
  have hservice : (ofRequest seq req).service = (scopeOf req).map (·.2) := rfl
  rw [hregion, hservice]
  refine ⟨?_, by simp⟩
  intro p before after hlegal hbefore hafter hfield
  have hreadable : ∀ c ∈ (before ++ "Credential=" ++ p.text ++ after).toList,
      Http.IsReadableChar c := by
    simp only [String.toList_append, List.mem_append]
    rintro c (((hc | hc) | hc) | hc)
    · exact hbefore.readable c hc
    · have hmark : ∀ d ∈ "Credential=".toList, Http.IsReadableChar d := by
        simp [Http.IsReadableChar]
      exact hmark c hc
    · rcases hlegal.mem hc with rfl | hpart
      · decide
      · exact hpart.visible.2
    · exact hafter.readable c hc
  have hscope : scopeOf req = some (p.region, p.service) := by
    rw [scopeOf, Http.Request.field?, hfield, Option.bind_some, Http.readable?_encode hreadable,
      Option.bind_some, Credential.regionAndService?_quoted hlegal hbefore hafter]
  rw [hscope]
  exact ⟨rfl, rfl⟩

theorem region_and_service_crowded :
    let p : Credential.Parts := ⟨"key,Credential=k", "", "us-east-1", "ecs", "aws4_request"⟩
    let before := "AWS4\tCredential: "
    let after := ",Credential=a/b/c/d/e,Signature=x/y/z"
    let req : Http.Request :=
      { method := .get, uri := .root,
        headers := Http.Headers.empty.insert "authorization"
          (Utf8.encode (before ++ "Credential=" ++ p.text ++ after)),
        body := [] }
    (p.Legal ∧ Credential.Precedes before ∧ Credential.Follows after ∧
        req.headers.first? "authorization" =
          some (Utf8.encode (before ++ "Credential=" ++ p.text ++ after))) ∧
      (ofRequest 1 req).region = some "us-east-1" ∧ (ofRequest 1 req).service = some "ecs" := by
  intro p before after req
  have hlegal : p.Legal := by
    constructor <;> simp [p, Credential.IsPartChar, Credential.IsWordChar]
  have hbefore : Credential.Precedes before :=
    ⟨by simp [before, Http.IsReadableChar], mt Cut.contains_iff.2 (by decide +kernel)⟩
  have hafter : Credential.Follows after := by
    refine ⟨by simp [after, Http.IsReadableChar], fun c hc => ?_⟩
    have hhead : after.toList.head? = some ',' := by decide
    obtain rfl : ',' = c := Option.some.inj (hhead.symm.trans hc)
    decide
  have hfield : req.headers.first? "authorization" =
      some (Utf8.encode (before ++ "Credential=" ++ p.text ++ after)) := rfl
  exact ⟨⟨hlegal, hbefore, hafter, hfield⟩,
    (region_and_service 1 req).1 p before after hlegal hbefore hafter hfield⟩

end Received

end CloudStub
