import CloudStub.Proofs.Http.Fields
import CloudStub.Proofs.Http.Target
import CloudStub.Request.Received

/-!
# The host of a request

A request names its destination in its target or in its host field.  The host is cut out of them in
two ways: the authority of a target loses what stands in front of its last at sign and what stands
behind the host, a host field loses a port when one can be read behind the host.  Both then lose the
brackets of a literal.  For a name without colons and for a bracketed literal, with a port or
without one, both ways end at the same host.

## Main Definitions

- `Http.HostText`: a written host and the host that it stands for
- `Http.PortText`, `Http.UserText`: what may stand behind and in front of a host
- `Received.InOriginForm`, `Received.InAbsoluteForm`: the two ways to name a destination

## Main Statements

- `Http.stripPort_append`, `Http.host_append`: what both ways make of a host with its surroundings
- `Http.Uri.authority_of_ofText?`: the authority of a target in absolute form
- `Received.hostname_agrees`: both ways to name a destination end at the same host
-/

namespace CloudStub

/-! ### The last separator -/

namespace Cut

theorem last?_eq_none {sep : Char} {cs : List Char} (h : sep ∉ cs) : last? sep cs = none := by
  induction cs with
  | nil => rfl
  | cons c rest ih =>
    obtain ⟨hc, hrest⟩ := List.ne_and_not_mem_of_not_mem_cons h
    rw [last?, ih hrest]
    exact if_neg (Ne.symm hc)

/-- A separator with none behind it is the last one. -/
theorem last?_append_cons {sep : Char} {back : List Char} (h : sep ∉ back) (front : List Char) :
    last? sep (front ++ sep :: back) = some (front, back) := by
  induction front with
  | nil =>
    rw [List.nil_append, last?, last?_eq_none h]
    exact if_pos rfl
  | cons c rest ih => rw [List.cons_append, last?, ih]

end Cut

/-! ### Brackets -/

namespace Received

theorem stripBrackets_name {host : List Char} (h : ∀ c ∈ host, c ≠ '[' ∧ c ≠ ']') :
    stripBrackets host = host := by
  have hfront : host.dropWhile (· == '[') = host := by
    cases host with
    | nil => rfl
    | cons c rest => simp [(h c (List.mem_cons_self ..)).1]
  have hback : host.reverse.dropWhile (· == ']') = host.reverse := by
    cases hr : host.reverse with
    | nil => rfl
    | cons c rest =>
      have hc : c ∈ host := List.mem_reverse.1 (hr ▸ List.mem_cons_self ..)
      simp [(h c hc).2]
  rw [stripBrackets, hfront, hback, List.reverse_reverse]

theorem stripBrackets_literal {inside : List Char} (h : ∀ c ∈ inside, c ≠ '[' ∧ c ≠ ']') :
    stripBrackets ('[' :: (inside ++ [']'])) = inside := by
  cases inside with
  | nil => rfl
  | cons c rest =>
    -- Behind the opening bracket nothing more is dropped in front, and the rest is a name.
    have hfront : ('[' :: (c :: rest ++ [']'])).dropWhile (· == '[') = c :: rest ++ [']'] := by
      simp [(h c (List.mem_cons_self ..)).1]
    have hname := stripBrackets_name h
    have hkept : (c :: rest).dropWhile (· == '[') = c :: rest := by
      simp [(h c (List.mem_cons_self ..)).1]
    rw [stripBrackets, hkept] at hname
    rw [stripBrackets, hfront, List.reverse_append, List.reverse_singleton,
      List.singleton_append, List.dropWhile_cons_of_pos rfl, hname]

end Received

namespace Http

/-! ### Hosts with their surroundings -/

/-- A written host and the host that it stands for. -/
inductive HostText : String → String → Prop where
  /-- A name or an address stands for itself. -/
  | name {host : String} (h : ∀ c ∈ host.toList, c ≠ ':' ∧ c ≠ '@' ∧ c ≠ '[' ∧ c ≠ ']') :
    HostText host host
  /-- A literal stands in brackets. -/
  | literal {inside : String} (h : ∀ c ∈ inside.toList, c ≠ '[' ∧ c ≠ ']' ∧ c ≠ '@') :
    HostText ("[" ++ inside ++ "]") inside

/-- What may stand behind a host: nothing, or a colon with a decimal number up to 65535. -/
inductive PortText : String → Prop where
  /-- No port. -/
  | absent : PortText ""
  /-- A port number, which may have zeros in front. -/
  | number {digits : String} (hne : digits ≠ "") (hdigits : ∀ c ∈ digits.toList, c.isDigit = true)
    (hsmall : Nat.ofDigitChars 10 digits.toList 0 ≤ 65535) : PortText (":" ++ digits)

/-- What may stand in front of a host: nothing, or whatever does not end an authority, with an at
sign behind it. -/
inductive UserText : String → Prop where
  /-- No user. -/
  | absent : UserText ""
  /-- A user. -/
  | named {user : String} (h : ∀ c ∈ user.toList, Authority.isEnd c = false) :
    UserText (user ++ "@")

theorem decimalValue_eq (digits : List Char) :
    Ascii.decimalValue digits = Nat.ofDigitChars 10 digits 0 := by
  rw [Ascii.decimalValue, Nat.ofDigitChars_eq_foldl]
  have hzero : '0'.toNat = 48 := rfl
  simp only [hzero, Nat.mul_comm]

theorem readPort?_isSome {digits : List Char} (hne : digits ≠ [])
    (hdigits : ∀ c ∈ digits, c.isDigit = true) (hsmall : Nat.ofDigitChars 10 digits 0 ≤ 65535) :
    (readPort? digits).isSome = true := by
  have hdecimal : decimal? digits = some (Ascii.decimalValue digits) := by
    have hall : digits.all Char.isDigit = true := List.all_eq_true.2 hdigits
    simp [decimal?, hne, hall]
  unfold readPort?
  split
  · -- A plus sign is no digit.
    exact absurd (hdigits '+' (List.mem_cons_self ..)) (by decide)
  · have hlt : Nat.ofDigitChars 10 digits 0 < 65536 := Nat.lt_succ_of_le hsmall
    simp [hdecimal, decimalValue_eq, hlt]

/-- A port is empty or begins with a colon. -/
theorem PortText.cases {port : String} (h : PortText port) :
    port.toList = [] ∨ ∃ digits, port.toList = ':' :: digits ∧ ':' ∉ digits ∧
      (∀ c ∈ digits, c.isDigit = true) ∧ (readPort? digits).isSome = true := by
  cases h with
  | absent => exact Or.inl rfl
  | @number digits hne hdigits hsmall =>
    refine Or.inr ⟨digits.toList, by simp, ?_, hdigits, ?_⟩
    · intro hcolon
      exact absurd (hdigits ':' hcolon) (by decide)
    · exact readPort?_isSome (mt String.toList_eq_nil_iff.1 hne) hdigits hsmall

theorem PortText.forall_mem {port : String} (h : PortText port) :
    ∀ c ∈ port.toList, c = ':' ∨ c.isDigit = true := by
  rcases h.cases with hnil | ⟨digits, hport, -, hdigits, -⟩
  · simp [hnil]
  · rw [hport]
    exact List.forall_mem_cons.2 ⟨Or.inl rfl, fun c hc => Or.inr (hdigits c hc)⟩

theorem PortText.notMem {port : String} (h : PortText port) {c : Char} (hcolon : c ≠ ':')
    (hdigit : c.isDigit = false) : c ∉ port.toList := by
  intro hc
  rcases h.forall_mem c hc with rfl | hd
  · exact hcolon rfl
  · rw [hdigit] at hd
    cases hd

theorem HostText.notMem_at {host name : String} (h : HostText host name) : '@' ∉ host.toList := by
  cases h with
  | name h => exact fun hc => (h '@' hc).2.1 rfl
  | literal h =>
    simp only [String.toList_append, List.mem_append, not_or]
    exact ⟨⟨by decide, fun hc => (h '@' hc).2.2 rfl⟩, by decide⟩

/-- A name, with its port or without, does not begin with a bracket. -/
theorem ne_bracket_cons {host port : String} (hhost : '[' ∉ host.toList) (hport : PortText port)
    (rest : List Char) : host.toList ++ port.toList ≠ '[' :: rest := by
  intro heq
  have hmem : '[' ∈ host.toList ++ port.toList := heq ▸ List.mem_cons_self ..
  rcases List.mem_append.1 hmem with hc | hc
  · exact hhost hc
  · exact hport.notMem (by decide) (by decide) hc

theorem toList_literal (inside : String) :
    ("[" ++ inside ++ "]").toList = '[' :: (inside.toList ++ [']']) := by
  simp

/-- A literal ends at its bracket. -/
theorem takeWhile_literal {inside : List Char} (h : ']' ∉ inside) (back : List Char) :
    ('[' :: (inside ++ [']']) ++ back).takeWhile (· != ']') = '[' :: inside := by
  have hgoes : ∀ c ∈ inside, (c != ']') = true := fun c hc => bne_iff_ne.2 fun heq => h (heq ▸ hc)
  rw [List.cons_append, List.takeWhile_cons_of_pos (by decide), List.append_assoc,
    List.takeWhile_append_of_pos hgoes]
  simp

/-- A host field loses its port, and a host without a port is kept. -/
theorem stripPort_append {host name port : String} (hhost : HostText host name)
    (hport : PortText port) :
    Received.stripPort (host.toList ++ port.toList) = host.toList := by
  cases hhost with
  | @name host h =>
    have hcolon : ':' ∉ host.toList := fun hc => (h ':' hc).1 rfl
    have hbracket : '[' ∉ host.toList := fun hc => (h '[' hc).2.2.1 rfl
    unfold Received.stripPort
    split
    · rename_i rest heq
      exact absurd heq (ne_bracket_cons hbracket hport rest)
    · rcases hport.cases with hnil | ⟨digits, hdigits, hlast, -, hread⟩
      · rw [hnil, List.append_nil, Cut.last?_eq_none hcolon]
      · rw [hdigits, Cut.last?_append_cons hlast]
        simp [hcolon, hread]
  | literal h =>
    have hclosing : ']' ∉ name.toList := fun hc => (h ']' hc).2.1 rfl
    rw [toList_literal]
    show (if _ then _ else _) = _
    rw [takeWhile_literal hclosing, if_pos (by simp)]
    rfl

/-- The user is not part of the host. -/
theorem afterLast_append {user : String} (huser : UserText user) {site : List Char}
    (hsite : '@' ∉ site) : Cut.afterLast '@' (user.toList ++ site) = site := by
  cases huser with
  | absent =>
    show Cut.afterLast '@' site = site
    rw [Cut.afterLast, Cut.last?_eq_none hsite]
  | @named user h =>
    have htext : (user ++ "@").toList ++ site = user.toList ++ '@' :: site := by simp
    rw [htext, Cut.afterLast, Cut.last?_append_cons hsite]

/-- The host of an authority. -/
theorem host_append {user host name port : String} (huser : UserText user)
    (hhost : HostText host name) (hport : PortText port) :
    Authority.host (user.toList ++ (host.toList ++ port.toList)) = host.toList := by
  have hsite : '@' ∉ host.toList ++ port.toList := by
    rw [List.mem_append, not_or]
    exact ⟨hhost.notMem_at, hport.notMem (by decide) (by decide)⟩
  unfold Authority.host
  rw [afterLast_append huser hsite]
  cases hhost with
  | @name host h =>
    have hbracket : '[' ∉ host.toList := fun hc => (h '[' hc).2.2.1 rfl
    have hgoes : ∀ c ∈ host.toList, (c != ':') = true := fun c hc => bne_iff_ne.2 (h c hc).1
    simp only
    split
    · rename_i rest heq
      exact absurd heq (ne_bracket_cons hbracket hport rest)
    · rw [List.takeWhile_append_of_pos hgoes]
      rcases hport.cases with hnil | ⟨digits, hdigits, -, -, -⟩
      · rw [hnil, List.takeWhile_nil, List.append_nil]
      · rw [hdigits, List.takeWhile_cons_of_neg (by decide), List.append_nil]
  | literal h =>
    have hclosing : ']' ∉ name.toList := fun hc => (h ']' hc).2.1 rfl
    rw [toList_literal]
    show List.takeWhile _ _ ++ _ = _
    rw [takeWhile_literal hclosing]
    rfl

/-- The host that both ways end at is the one that the written host stands for. -/
theorem stripBrackets_host {host name : String} (h : HostText host name) :
    Received.stripBrackets host.toList = name.toList := by
  cases h with
  | name h => exact Received.stripBrackets_name fun c hc => ⟨(h c hc).2.2.1, (h c hc).2.2.2⟩
  | literal h =>
    rw [toList_literal]
    exact Received.stripBrackets_literal fun c hc => ⟨(h c hc).1, (h c hc).2.1⟩

/-! ### Characters of authorities -/

theorem Authority.isReadableChar_of_isChar {c : Char} (h : Authority.isChar c = true) :
    IsReadableChar c := by
  have hascii : c.toNat < 128 := by
    simp only [Authority.isChar, Unicode.isAsciiLetter, Unicode.isAsciiDigit, Bool.or_eq_true,
      Bool.and_eq_true, decide_eq_true_eq] at h
    rcases h with ((⟨-, h⟩ | ⟨-, h⟩) | ⟨-, h⟩) | h
    · exact Nat.lt_of_le_of_lt (UInt32.le_iff_toNat_le.1 h) (by decide)
    · exact Nat.lt_of_le_of_lt (UInt32.le_iff_toNat_le.1 h) (by decide)
    · exact Nat.lt_of_le_of_lt (UInt32.le_iff_toNat_le.1 h) (by decide)
    · have hmarks : ∀ d ∈ ['!', '$', '&', '\x27', '(', ')', '*', '+', ',', '-', '.', ':', ';', '=',
          '@', '[', ']', '_', '~'], d.toNat < 128 := by
        simp
      exact hmarks c (List.contains_iff_mem.1 h)
  obtain ⟨k, rfl⟩ := Ascii.exists_fin hascii
  clear hascii
  revert k
  decide +kernel

theorem Authority.isReadableChar_of_step {s s' : Authority.Scan} {c : Char}
    (h : s.step c = some s') : IsReadableChar c := by
  have hknown : c = ':' ∨ c = '[' ∨ c = ']' ∨ c = '@' ∨ c = '%' ∨ Authority.isChar c = true := by
    refine Decidable.by_contra fun hnone => ?_
    simp only [not_or] at hnone
    obtain ⟨hcolon, hopening, hclosing, hat, hpercent, hother⟩ := hnone
    simp [Authority.Scan.step, hcolon, hopening, hclosing, hat, hpercent, hother] at h
  rcases hknown with rfl | rfl | rfl | rfl | rfl | hchar
  · decide
  · decide
  · decide
  · decide
  · decide
  · exact Authority.isReadableChar_of_isChar hchar

/-- A host that may stand in a target can be read in a host field, with its port. -/
theorem isReadableChar_of_isValid {host port : String}
    (hvalid : Authority.isValid host.toList = true) (hport : PortText port) :
    ∀ c ∈ (host ++ port).toList, IsReadableChar c := by
  intro c hc
  rw [String.toList_append, List.mem_append] at hc
  rcases hc with hc | hc
  · exact Authority.forall_of_isValid Authority.isReadableChar_of_step hvalid c hc
  · rcases hport.forall_mem c hc with rfl | hdigit
    · decide
    · obtain ⟨hlow, hhigh⟩ := Char.isDigit_iff_toNat.1 hdigit
      exact Or.inr ⟨Nat.le_trans (by decide) hlow, Nat.le_trans hhigh (by decide)⟩

theorem PortText.not_isEnd {port : String} (h : PortText port) :
    ∀ c ∈ port.toList, Authority.isEnd c = false := by
  have hends : ∀ c, Authority.isEnd c = true → c = '/' ∨ c = '?' ∨ c = '#' := by
    intro c hc
    simpa [Authority.isEnd, or_assoc] using hc
  intro c hc
  refine Bool.eq_false_iff.2 fun hend => ?_
  rcases hends c hend with rfl | rfl | rfl <;> exact h.notMem (by decide) (by decide) hc

theorem UserText.not_isEnd {user : String} (h : UserText user) :
    ∀ c ∈ user.toList, Authority.isEnd c = false := by
  cases h with
  | absent => simp
  | named h =>
    rw [String.toList_append]
    exact List.forall_mem_append.2 ⟨h, List.forall_mem_singleton.2 (by decide)⟩

namespace Uri

/-- A target that begins with a slash has no authority. -/
theorem authority_of_slash {s : String} {u : Uri} (hslash : s.toList.head? = some '/')
    (h : ofText? s = some u) : u.authority = none := by
  rcases ofText?_cases h with ⟨hs, -⟩ | ⟨-, horigin⟩ | ⟨_, _, hhead, -⟩ | ⟨hhead, -, -⟩
  · rw [hs] at hslash
    cases hslash
  · exact (originForm?_eq_some horigin).2.1
  · exact absurd hslash hhead
  · exact absurd hslash hhead

/-- The authority of a target in absolute form is what stands between the double slash and the
first character that ends an authority. -/
theorem authority_of_ofText? {scheme authority rest : String} {u : Uri}
    (hscheme : ∀ c ∈ scheme.toList, isSchemeChar c = true)
    (hauthority : ∀ c ∈ authority.toList, Authority.isEnd c = false)
    (hrest : ∀ c, rest.toList.head? = some c → Authority.isEnd c = true)
    (h : ofText? (scheme ++ "://" ++ authority ++ rest) = some u) :
    u.authority = some authority := by
  have hlist : (scheme ++ "://" ++ authority ++ rest).toList =
      scheme.toList ++ ':' :: '/' :: '/' :: (authority.toList ++ rest.toList) := by
    simp
  have htake : (authority.toList ++ rest.toList).takeWhile (fun c => !Authority.isEnd c) =
      authority.toList := by
    have hgoes : ∀ c ∈ authority.toList, (!Authority.isEnd c) = true := fun c hc => by
      rw [hauthority c hc]
      rfl
    rw [List.takeWhile_append_of_pos hgoes]
    cases hr : rest.toList with
    | nil => simp
    | cons c more =>
      have hstops := hrest c (by rw [hr]; rfl)
      rw [List.takeWhile_cons_of_neg (by simp [hstops]), List.append_nil]
  have habsolute : absoluteForm? scheme.toList (authority.toList ++ rest.toList) = some u := by
    by_cases hsize : (scheme ++ "://" ++ authority ++ rest).utf8ByteSize ≤ sizeLimit
    · rw [← ofText?_scheme hscheme hlist hsize, h]
    · rw [ofText?, if_pos (Nat.not_le.1 hsize)] at h
      cases h
  unfold absoluteForm? at habsolute
  rw [htake] at habsolute
  simp only at habsolute
  split at habsolute
  · cases habsolute
  · obtain ⟨pq, -, rfl⟩ := Option.map_eq_some_iff.1 habsolute
    rw [String.ofList_toList]

end Uri

end Http

/-! ### Requests -/

namespace Received

/-- A request in origin form with a host field. -/
structure InOriginForm (req : Http.Request) (site : String) : Prop where
  /-- The target begins with a slash. -/
  target : ∃ s, s.toList.head? = some '/' ∧ Http.Uri.ofText? s = some req.uri
  /-- The host field names the site. -/
  field : req.headers.first? "host" = some (Utf8.encode site)

/-- A request in absolute form, with or without a user in front of the site. -/
structure InAbsoluteForm (req : Http.Request) (site : String) : Prop where
  /-- The target names the site behind a scheme, a double slash and a user. -/
  target : ∃ scheme user rest : String,
    (∀ c ∈ scheme.toList, Http.Uri.isSchemeChar c = true) ∧ Http.UserText user ∧
      (∀ c, rest.toList.head? = some c → Http.Authority.isEnd c = true) ∧
        Http.Uri.ofText? (scheme ++ "://" ++ (user ++ site) ++ rest) = some req.uri

theorem hostOf_origin {host name port : String} (hhost : Http.HostText host name)
    (hvalid : Http.Authority.isValid host.toList = true) (hport : Http.PortText port)
    {req : Http.Request} (h : InOriginForm req (host ++ port)) : hostOf req = name := by
  obtain ⟨s, hslash, hread⟩ := h.target
  have hauthority := Http.Uri.authority_of_slash hslash hread
  have hfield : req.field? "host" = some (host ++ port) := by
    rw [Http.Request.field?, h.field, Option.bind_some,
      Http.readable?_encode (Http.isReadableChar_of_isValid hvalid hport)]
  have hnone : req.uri.host? = none := by
    rw [Http.Uri.host?, hauthority]
    rfl
  rw [hostOf, hnone, hfield]
  simp only [Option.getD_some, String.toList_append]
  rw [Http.stripPort_append hhost hport, Http.stripBrackets_host hhost, String.ofList_toList]

theorem hostOf_absolute {host name port : String} (hhost : Http.HostText host name)
    (hvalid : Http.Authority.isValid host.toList = true) (hport : Http.PortText port)
    {req : Http.Request} (h : InAbsoluteForm req (host ++ port)) : hostOf req = name := by
  obtain ⟨scheme, user, rest, hscheme, huser, hrest, hread⟩ := h.target
  have hends : ∀ c ∈ (user ++ (host ++ port)).toList, Http.Authority.isEnd c = false := by
    rw [String.toList_append, String.toList_append]
    exact List.forall_mem_append.2 ⟨huser.not_isEnd, List.forall_mem_append.2
      ⟨Http.Authority.not_isEnd_of_isValid hvalid, hport.not_isEnd⟩⟩
  have hsome : req.uri.host? = some host := by
    rw [Http.Uri.host?, Http.Uri.authority_of_ofText? hscheme hends hrest hread, Option.map_some,
      String.toList_append, String.toList_append, Http.host_append huser hhost hport,
      String.ofList_toList]
  rw [hostOf, hsome]
  simp only
  rw [Http.stripBrackets_host hhost, String.ofList_toList]

/-- Both ways to name a destination end at the same host: a request in origin form with the host
in its host field, and a request in absolute form to that host, each with a port or without one.
The host is the written one without its brackets. -/
theorem hostname_agrees {host name : String} (hhost : Http.HostText host name)
    (hvalid : Http.Authority.isValid host.toList = true) {port other : String}
    (hport : Http.PortText port) (hother : Http.PortText other) {origin absolute : Http.Request}
    (horigin : InOriginForm origin (host ++ port))
    (habsolute : InAbsoluteForm absolute (host ++ other)) (first second : Nat) :
    (ofRequest first origin).hostname = name ∧ (ofRequest second absolute).hostname = name :=
  ⟨hostOf_origin hhost hvalid hport horigin, hostOf_absolute hhost hvalid hother habsolute⟩

theorem hostname_agrees_literal :
    let host := "[" ++ "fe80::1%25eth0" ++ "]"
    let port := ":" ++ "08080"
    let other := ":" ++ "65535"
    let origin : Http.Request :=
      { method := .get, uri := ⟨none, none, "/rules", some "x=1"⟩,
        headers := Http.Headers.empty.insert "host" (Utf8.encode (host ++ port)), body := [] }
    let absolute : Http.Request :=
      { method := .get, uri := ⟨some "http", some "me@[fe80::1%25eth0]:65535", "", none⟩,
        headers := Http.Headers.empty.insert "host" (Utf8.encode "other.example"), body := [] }
    (Http.HostText host "fe80::1%25eth0" ∧ Http.Authority.isValid host.toList = true ∧
        Http.PortText port ∧ Http.PortText other ∧ InOriginForm origin (host ++ port) ∧
        InAbsoluteForm absolute (host ++ other)) ∧
      (ofRequest 1 origin).hostname = "fe80::1%25eth0" ∧
        (ofRequest 2 absolute).hostname = "fe80::1%25eth0" := by
  intro host port other origin absolute
  have hhost : Http.HostText host "fe80::1%25eth0" := .literal (by simp)
  have hvalid : Http.Authority.isValid host.toList = true := by decide +kernel
  have hport : Http.PortText port :=
    .number (by decide) (List.all_eq_true.1 (by decide)) (by decide)
  have hother : Http.PortText other :=
    .number (by decide) (List.all_eq_true.1 (by decide)) (by decide)
  have horigin : InOriginForm origin (host ++ port) :=
    ⟨⟨"/rules?x=1", by simp, by decide +kernel⟩, rfl⟩
  have habsolute : InAbsoluteForm absolute (host ++ other) :=
    ⟨⟨"http", "me" ++ "@", "", List.all_eq_true.1 (by decide),
      .named (by simp [Http.Authority.isEnd]), by simp, by decide +kernel⟩⟩
  exact ⟨⟨hhost, hvalid, hport, hother, horigin, habsolute⟩,
    hostname_agrees hhost hvalid hport hother horigin habsolute 1 2⟩

end Received

end CloudStub
