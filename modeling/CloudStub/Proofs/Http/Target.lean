import CloudStub.Http.Uri

/-!
# Reading request targets

What is known of a target that was read from a text, and which text reads back as a given target:
a scheme, a double slash, an authority, and a path with its query.

## Main Definitions

- `Uri.queryText`: a query behind its question mark
- `Uri.Legible`: path and query consist of characters that can be read back

## Main Statements

- `Uri.ofText?_cases`: the four forms of a target
- `Uri.ofText?_absolute`: the text of an absolute target reads back
-/

namespace CloudStub.Http

/-! ### Authorities -/

namespace Authority

/-- The characters that end an authority are none of those that its check knows. -/
theorem not_isEnd_of_step {s s' : Scan} {c : Char} (h : s.step c = some s') :
    isEnd c = false := by
  cases hend : isEnd c with
  | false => rfl
  | true =>
    have hnone : s.step c = none := by
      rw [isEnd, Bool.or_eq_true, Bool.or_eq_true, beq_iff_eq, beq_iff_eq, beq_iff_eq] at hend
      rcases hend with (rfl | rfl) | rfl <;> rfl
    rw [hnone] at h
    cases h

/-- What the check of each character establishes holds of all characters that pass. -/
theorem forall_of_foldlM {P : Char → Prop}
    (hstep : ∀ {s s' : Scan} {c : Char}, s.step c = some s' → P c) {s s' : Scan}
    {cs : List Char} (h : cs.foldlM Scan.step s = some s') : ∀ c ∈ cs, P c := by
  induction cs generalizing s with
  | nil => simp
  | cons c rest ih =>
    rw [List.foldlM_cons, Option.bind_eq_bind, Option.bind_eq_some_iff] at h
    obtain ⟨next, hnext, hrest⟩ := h
    exact List.forall_mem_cons.2 ⟨hstep hnext, ih hrest⟩

theorem forall_of_isValid {P : Char → Prop}
    (hstep : ∀ {s s' : Scan} {c : Char}, s.step c = some s' → P c) {cs : List Char}
    (h : isValid cs = true) : ∀ c ∈ cs, P c := by
  unfold isValid at h
  cases hscan : cs.foldlM Scan.step ⟨0, false, false, false⟩ with
  | none => simp [hscan] at h
  | some s => exact forall_of_foldlM hstep hscan

/-- No character of an authority ends it. -/
theorem not_isEnd_of_isValid {cs : List Char} (h : isValid cs = true) :
    ∀ c ∈ cs, isEnd c = false :=
  forall_of_isValid not_isEnd_of_step h

end Authority

namespace Uri

/-! ### Paths and queries -/

/-- A query behind its question mark, if there is one. -/
def queryText : Option String → String
  | some q => "?" ++ q
  | none => ""

theorem pathAndQuery_eq (u : Uri) : u.pathAndQuery = u.path ++ queryText u.query := by
  unfold pathAndQuery queryText
  cases u.query <;> rfl

/-- Path and query consist of characters that can be read back. -/
structure Legible (u : Uri) : Prop where
  /-- The characters of the path are legal. -/
  path : ∀ c ∈ u.rawPath.toList, isPathChar c = true
  /-- So are those of the query. -/
  query : ∀ q, u.query = some q → ∀ c ∈ q.toList, isQueryChar c = true

theorem not_endsPath_of_isPathChar {c : Char} (h : isPathChar c = true) : endsPath c = false := by
  cases hend : endsPath c with
  | false => rfl
  | true =>
    rw [endsPath, Bool.or_eq_true, beq_iff_eq, beq_iff_eq] at hend
    rcases hend with rfl | rfl <;> exact absurd h (by decide)

theorem ne_hash_of_isQueryChar {c : Char} (h : isQueryChar c = true) : (c != '#') = true := by
  rw [bne_iff_ne]
  rintro rfl
  exact absurd h (by decide)

/-- Reading a path with a query yields legal characters. -/
theorem legible_of_pathAndQuery? {cs path : List Char} {query : Option (List Char)}
    (h : pathAndQuery? cs = some (path, query)) :
    path = cs.takeWhile (fun c => !endsPath c) ∧ (∀ c ∈ path, isPathChar c = true) ∧
      ∀ q, query = some q → ∀ c ∈ q, isQueryChar c = true := by
  unfold pathAndQuery? at h
  simp only at h
  split at h
  · cases h
  · rename_i hpath
    rw [Bool.not_eq_true, Bool.not_eq_false', List.all_eq_true] at hpath
    split at h
    · split at h
      · rename_i hquery
        obtain ⟨rfl, rfl⟩ := Prod.mk.inj (Option.some.inj h)
        refine ⟨rfl, hpath, fun q hq => ?_⟩
        obtain rfl := Option.some.inj hq
        exact List.all_eq_true.1 hquery
      · cases h
    · obtain ⟨rfl, rfl⟩ := Prod.mk.inj (Option.some.inj h)
      exact ⟨rfl, hpath, by simp⟩

/-- A path with a query reads back. -/
theorem pathAndQuery?_append {path : String} {query : Option String}
    (hpath : ∀ c ∈ path.toList, isPathChar c = true)
    (hquery : ∀ q, query = some q → ∀ c ∈ q.toList, isQueryChar c = true) :
    pathAndQuery? (path.toList ++ (queryText query).toList) =
      some (path.toList, query.map String.toList) := by
  have hgoes : ∀ c ∈ path.toList, (!endsPath c) = true := fun c hc => by
    rw [not_endsPath_of_isPathChar (hpath c hc)]
    rfl
  have hall : path.toList.all isPathChar = true := List.all_eq_true.2 hpath
  unfold pathAndQuery?
  rw [List.takeWhile_append_of_pos hgoes, List.dropWhile_append_of_pos hgoes]
  cases query with
  | none => simp [queryText, hall]
  | some q =>
    have htext : (queryText (some q)).toList = '?' :: q.toList := by
      rw [queryText, String.toList_append]
      rfl
    have hstops : endsPath '?' = true := rfl
    have hq : q.toList.takeWhile (· != '#') = q.toList := by
      have hgoes : ∀ c ∈ q.toList, (c != '#') = true :=
        fun c hc => ne_hash_of_isQueryChar (hquery q rfl c hc)
      simpa using @List.takeWhile_append_of_pos _ _ q.toList [] hgoes
    have hqall : q.toList.all isQueryChar = true := List.all_eq_true.2 (hquery q rfl)
    rw [htext]
    simp [hstops, hall, hq, hqall]

/-! ### The forms of a target -/

/-- A target that was read is an asterisk, a path with an optional query, a scheme with an
authority, or an authority alone. -/
theorem ofText?_cases {s : String} {u : Uri} (h : ofText? s = some u) :
    (s.toList = ['*'] ∧ u = ⟨none, none, "*", none⟩) ∨
      (s.toList.head? = some '/' ∧ originForm? s.toList = some u) ∨
      (∃ scheme rest, s.toList.head? ≠ some '/' ∧ absoluteForm? scheme rest = some u) ∨
      (s.toList.head? ≠ some '/' ∧ s.toList ≠ [] ∧ authorityForm? s.toList = some u) := by
  unfold ofText? at h
  split at h
  · cases h
  · split at h
    · cases h
    · rename_i hs
      exact Or.inl ⟨hs, (Option.some.inj h).symm⟩
    · rename_i rest hs
      rw [hs]
      exact Or.inr (Or.inl ⟨rfl, h⟩)
    · rename_i cs hne hstar hslash
      have hhead : s.toList.head? ≠ some '/' := by
        intro heq
        obtain ⟨rest, hs⟩ := List.head?_eq_some_iff.1 heq
        exact hslash rest hs
      split at h
      · rename_i scheme rest _
        exact Or.inr (Or.inr (Or.inl ⟨scheme, rest, hhead, h⟩))
      · exact Or.inr (Or.inr (Or.inr ⟨hhead, hne, h⟩))

theorem originForm?_eq_some {cs : List Char} {u : Uri} (h : originForm? cs = some u) :
    u.scheme = none ∧ u.authority = none ∧
      u.rawPath.toList = cs.takeWhile (fun c => !endsPath c) ∧ u.Legible := by
  rw [originForm?, Option.map_eq_some_iff] at h
  obtain ⟨⟨path, query⟩, hread, rfl⟩ := h
  obtain ⟨hpath, hlegal, hquery⟩ := legible_of_pathAndQuery? hread
  refine ⟨rfl, rfl, by simpa using hpath, ⟨by simpa using hlegal, ?_⟩⟩
  rintro q hq
  obtain ⟨q, rfl, rfl⟩ := Option.map_eq_some_iff.1 hq
  simpa using hquery q rfl

theorem authorityForm?_eq_some {cs : List Char} {u : Uri} (h : authorityForm? cs = some u) :
    Authority.isValid cs = true ∧ u = ⟨none, some (String.ofList cs), "", none⟩ := by
  unfold authorityForm? at h
  split at h
  · rename_i hvalid
    exact ⟨hvalid, (Option.some.inj h).symm⟩
  · cases h

/-- An absolute target has a scheme and an authority that is one and is not empty. -/
theorem absoluteForm?_eq_some {scheme rest : List Char} {u : Uri}
    (h : absoluteForm? scheme rest = some u) :
    u.scheme = some (schemeName scheme) ∧
      ∃ a, u.authority = some a ∧ a.toList ≠ [] ∧ Authority.isValid a.toList = true := by
  unfold absoluteForm? at h
  simp only at h
  split at h
  · cases h
  · rename_i hchecks
    obtain ⟨pq, -, rfl⟩ := Option.map_eq_some_iff.1 h
    rw [Bool.or_eq_true, Bool.or_eq_true, not_or, not_or, Bool.not_eq_true, Bool.not_eq_true,
      Bool.not_eq_true, Bool.not_eq_false', List.isEmpty_eq_false_iff] at hchecks
    refine ⟨rfl, _, rfl, ?_⟩
    rw [String.toList_ofList]
    exact ⟨hchecks.1.2, hchecks.2⟩

/-- An authority that was read is one, and is not empty. -/
theorem isValid_authority_of_ofText? {s : String} {u : Uri} (h : ofText? s = some u) {a : String}
    (ha : u.authority = some a) : a.toList ≠ [] ∧ Authority.isValid a.toList = true := by
  rcases ofText?_cases h with ⟨-, rfl⟩ | ⟨-, horigin⟩ | ⟨scheme, rest, -, habsolute⟩ |
    ⟨-, hne, hauthority⟩
  · cases ha
  · rw [(originForm?_eq_some horigin).2.1] at ha
    cases ha
  · obtain ⟨-, a', ha', hchecks⟩ := absoluteForm?_eq_some habsolute
    obtain rfl : a' = a := Option.some.inj (ha'.symm.trans ha)
    exact hchecks
  · obtain ⟨hvalid, rfl⟩ := authorityForm?_eq_some hauthority
    obtain rfl := Option.some.inj ha
    rw [String.toList_ofList]
    exact ⟨hne, hvalid⟩

/-! ### Writing and reading an absolute target -/

theorem scheme?_append {scheme : List Char} (hscheme : ∀ c ∈ scheme, isSchemeChar c = true)
    (rest : List Char) :
    scheme? (scheme ++ ':' :: '/' :: '/' :: rest) = some (scheme, rest) := by
  have hcolon : isSchemeChar ':' = false := by decide
  unfold scheme?
  rw [List.dropWhile_append_of_pos hscheme, List.takeWhile_append_of_pos hscheme]
  simp [hcolon]

/-- An authority with a path reads back behind a scheme. -/
theorem absoluteForm?_append {scheme : List Char} {authority path : String}
    {query : Option String} (hlength : scheme.length ≤ schemeLimit)
    (hne : authority.toList ≠ []) (hvalid : Authority.isValid authority.toList = true)
    (hslash : path.toList.head? = some '/') (hpath : ∀ c ∈ path.toList, isPathChar c = true)
    (hquery : ∀ q, query = some q → ∀ c ∈ q.toList, isQueryChar c = true) :
    absoluteForm? scheme (authority.toList ++ (path.toList ++ (queryText query).toList)) =
      some ⟨some (schemeName scheme), some authority, path, query⟩ := by
  have hgoes : ∀ c ∈ authority.toList, (!Authority.isEnd c) = true := fun c hc => by
    rw [Authority.not_isEnd_of_isValid hvalid c hc]
    rfl
  -- The slash of the path ends the authority.
  obtain ⟨tail, hpathText⟩ := List.head?_eq_some_iff.1 hslash
  have hrest : path.toList ++ (queryText query).toList =
      '/' :: (tail ++ (queryText query).toList) := by
    rw [hpathText]
    rfl
  have hstops : (!Authority.isEnd '/') = false := rfl
  have htake : (authority.toList ++ (path.toList ++ (queryText query).toList)).takeWhile
      (fun c => !Authority.isEnd c) = authority.toList := by
    rw [List.takeWhile_append_of_pos hgoes, hrest, List.takeWhile_cons_of_neg (by simp [hstops]),
      List.append_nil]
  have hdrop : (authority.toList ++ (path.toList ++ (queryText query).toList)).dropWhile
      (fun c => !Authority.isEnd c) = path.toList ++ (queryText query).toList := by
    rw [List.dropWhile_append_of_pos hgoes, hrest, List.dropWhile_cons_of_neg (by simp [hstops])]
  have hchecks : (decide (scheme.length > schemeLimit) || authority.toList.isEmpty ||
      !Authority.isValid authority.toList) = false := by
    simp [hvalid, hne, hlength]
  unfold absoluteForm?
  rw [htake, hdrop, pathAndQuery?_append hpath hquery]
  simp only [hchecks]
  simp [String.ofList_toList]

/-- A text with a scheme in front of a double slash is read in absolute form. -/
theorem ofText?_scheme {s : String} {scheme rest : List Char}
    (hscheme : ∀ c ∈ scheme, isSchemeChar c = true)
    (hlist : s.toList = scheme ++ ':' :: '/' :: '/' :: rest)
    (hsize : s.utf8ByteSize ≤ sizeLimit) : ofText? s = absoluteForm? scheme rest := by
  unfold ofText?
  rw [if_neg (Nat.not_lt.2 hsize), hlist]
  -- The text begins with a character of the scheme or with the colon behind it.
  split
  · rename_i hnil
    simp at hnil
  · rename_i hstar
    have hlong := congrArg List.length hstar
    simp only [List.length_append, List.length_cons, List.length_nil] at hlong
    omega
  · rename_i tail hslashes
    cases hs : scheme with
    | nil => simp [hs] at hslashes
    | cons c cs =>
      obtain rfl : c = '/' := by simpa [hs] using congrArg List.head? hslashes
      exact absurd (hscheme '/' (hs ▸ List.mem_cons_self ..)) (by decide)
  · rw [scheme?_append hscheme]

/-- The text of an absolute target reads back, unless it is too long. -/
theorem ofText?_absolute {scheme authority path : String} {query : Option String}
    (hscheme : ∀ c ∈ scheme.toList, isSchemeChar c = true)
    (hname : schemeName scheme.toList = scheme) (hlength : scheme.toList.length ≤ schemeLimit)
    (hne : authority.toList ≠ []) (hvalid : Authority.isValid authority.toList = true)
    (hslash : path.toList.head? = some '/') (hpath : ∀ c ∈ path.toList, isPathChar c = true)
    (hquery : ∀ q, query = some q → ∀ c ∈ q.toList, isQueryChar c = true)
    (hsize : (scheme ++ "://" ++ authority ++ (path ++ queryText query)).utf8ByteSize ≤
      sizeLimit) :
    ofText? (scheme ++ "://" ++ authority ++ (path ++ queryText query)) =
      some ⟨some scheme, some authority, path, query⟩ := by
  have hlist : (scheme ++ "://" ++ authority ++ (path ++ queryText query)).toList =
      scheme.toList ++ ':' :: '/' :: '/' ::
        (authority.toList ++ (path.toList ++ (queryText query).toList)) := by
    simp
  have habsolute := absoluteForm?_append hlength hne hvalid hslash hpath hquery
  rw [hname] at habsolute
  rw [ofText?_scheme hscheme hlist hsize, habsolute]

end Uri

end CloudStub.Http
