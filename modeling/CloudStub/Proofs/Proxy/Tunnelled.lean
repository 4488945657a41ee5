import CloudStub.Proofs.Request.Hostname
import CloudStub.Proxy.Basic

/-!
# Requests in a tunnel

The host of a tunnel is derived twice: for the certificate, from the authority that the client
asked for, and for the rules, from the completed target of each request.  Both derivations strip
brackets in ways of their own.  For a host without brackets and for a bracketed literal they agree,
so the rules see the host that the certificate is for.

## Main Definitions

- `Tunnel.SimpleHost`: a host without brackets, or one in a single pair of brackets
- `Tunnel.Relative`: a target in origin form, or an authority alone
- `Tunnel.asked`: the path and the query of such a target

## Main Statements

- `Tunnel.bare_eq_stripBrackets`: both ways to strip brackets agree
- `Tunnel.classified_complete`: what completing a request changes in its classification
- `Proxy.handleWithin_completes`: what the session gets to see of a request in a tunnel

## Design Notes

The completed target is compared with a text: the one that a client would have written to name the
same resource without a tunnel.  A text that is too long is no target; nothing else stands in the
way of reading it back.
-/

namespace CloudStub

namespace Tunnel

/-! ### Hosts -/

/-- A host without brackets, or one in a single pair of brackets. -/
inductive SimpleHost : List Char → Prop where
  /-- A name or an address without brackets. -/
  | name {host : List Char} (h : ∀ c ∈ host, c ≠ '[' ∧ c ≠ ']') : SimpleHost host
  /-- A bracketed literal. -/
  | literal {inside : List Char} (h : ∀ c ∈ inside, c ≠ '[' ∧ c ≠ ']') :
    SimpleHost ('[' :: (inside ++ [']']))

/-- Both ways to strip brackets agree. -/
theorem bare_eq_stripBrackets {host : List Char} (h : SimpleHost host) :
    bare host = Received.stripBrackets host := by
  cases h with
  | name h =>
    rw [Received.stripBrackets_name h]
    cases host with
    | nil => rfl
    | cons c rest =>
      have hc : c ≠ '[' := (h c (List.mem_cons_self ..)).1
      simp [bare, hc]
  | @literal inside h =>
    rw [Received.stripBrackets_literal h]
    simp [bare]

/-! ### Targets -/

/-- A target in origin form, or an authority alone. -/
def Relative (u : Http.Uri) : Prop :=
  ∃ s, Http.Uri.ofText? s = some u ∧
    (s.toList.head? = some '/' ∨ (u.scheme = none ∧ u.authority.isSome = true))

/-- The path and the query of a target; the path of the root when it has none. -/
def asked (u : Http.Uri) : String := if u.pathAndQuery = "" then "/" else u.pathAndQuery

/-- The path of a target; the path of the root when it has none. -/
def askedPath (u : Http.Uri) : String := if u.path = "" then "/" else u.path

theorem Relative.cases {u : Http.Uri} (h : Relative u) :
    (u.scheme = none ∧ u.authority = none ∧ u.rawPath.toList.head? = some '/' ∧ u.Legible) ∨
      ∃ a, u = ⟨none, some a, "", none⟩ := by
  obtain ⟨s, hread, hform⟩ := h
  rcases Http.Uri.ofText?_cases hread with ⟨hs, rfl⟩ | ⟨hhead, horigin⟩ |
    ⟨scheme, rest, hhead, habsolute⟩ | ⟨hhead, -, hauthority⟩
  · rcases hform with hhead | ⟨-, hsome⟩
    · simp [hs] at hhead
    · cases hsome
  · obtain ⟨hscheme, hauthority, hpath, hlegible⟩ := Http.Uri.originForm?_eq_some horigin
    refine Or.inl ⟨hscheme, hauthority, ?_, hlegible⟩
    obtain ⟨rest, hs⟩ := List.head?_eq_some_iff.1 hhead
    rw [hpath, hs, List.takeWhile_cons_of_pos (by decide)]
    rfl
  · rcases hform with hslash | ⟨hscheme, -⟩
    · exact absurd hslash hhead
    · rw [(Http.Uri.absoluteForm?_eq_some habsolute).1] at hscheme
      cases hscheme
  · exact Or.inr ⟨_, (Http.Uri.authorityForm?_eq_some hauthority).2⟩

theorem ne_empty_of_slash {path : String} (h : path.toList.head? = some '/') : path ≠ "" := by
  rintro rfl
  cases h

/-- The path that is asked for begins with a slash, and together with the query it can be read
back. -/
theorem Relative.askedPath_legible {u : Http.Uri} (h : Relative u) :
    (askedPath u).toList.head? = some '/' ∧
      (∀ c ∈ (askedPath u).toList, Http.Uri.isPathChar c = true) ∧
        ∀ q, u.query = some q → ∀ c ∈ q.toList, Http.Uri.isQueryChar c = true := by
  rcases h.cases with ⟨hscheme, -, hslash, hlegible⟩ | ⟨a, rfl⟩
  · have hpath : askedPath u = u.rawPath := by
      have hraw : u.path = u.rawPath := by simp [Http.Uri.path, hscheme]
      rw [askedPath, hraw, if_neg (ne_empty_of_slash hslash)]
    rw [hpath]
    exact ⟨hslash, hlegible.path, hlegible.query⟩
  · have hpath : askedPath ⟨none, some a, "", none⟩ = "/" := by simp [askedPath, Http.Uri.path]
    rw [hpath]
    exact ⟨by decide, List.all_eq_true.1 (by decide), by simp⟩

theorem Relative.asked_eq {u : Http.Uri} (h : Relative u) :
    asked u = askedPath u ++ Http.Uri.queryText u.query := by
  rw [asked, Http.Uri.pathAndQuery_eq, askedPath]
  rcases h.cases with ⟨hscheme, -, hslash, -⟩ | ⟨a, rfl⟩
  · have hraw : u.path = u.rawPath := by simp [Http.Uri.path, hscheme]
    have hne := ne_empty_of_slash hslash
    have hboth : u.rawPath ++ Http.Uri.queryText u.query ≠ "" := by simp [hne]
    rw [hraw, if_neg hne, if_neg hboth]
  · rfl

/-- The completed target: scheme and authority of the tunnel with the path and the query that are
asked for. -/
theorem Relative.target_eq {u : Http.Uri} (h : Relative u) (t : Tunnel) :
    t.target u = ⟨some "https", some t.authority, askedPath u, u.query⟩ := by
  rcases h.cases with ⟨hscheme, hauthority, hslash, -⟩ | ⟨a, rfl⟩
  · have hraw : u.path = u.rawPath := by simp [Http.Uri.path, hscheme]
    rw [target, Http.Uri.isAbsolute, hscheme, Http.Uri.within, hauthority, askedPath, hraw,
      if_neg (ne_empty_of_slash hslash)]
    rfl
  · rfl

theorem Relative.path_target {u : Http.Uri} (h : Relative u) (t : Tunnel) :
    (t.target u).path = askedPath u := by
  have hne : askedPath u ≠ "" := ne_empty_of_slash h.askedPath_legible.1
  rw [h.target_eq, Http.Uri.path]
  simp [hne]

/-- The completed target is written as its parts one after another. -/
theorem Relative.text_target {u : Http.Uri} (h : Relative u) (t : Tunnel) :
    (t.target u).text = "https://" ++ t.authority ++ asked u := by
  rw [Http.Uri.text, Http.Uri.pathAndQuery_eq, h.path_target, h.asked_eq, h.target_eq]
  rfl

/-- The written form of the completed target reads back as that target. -/
theorem Relative.ofText?_target {u : Http.Uri} (h : Relative u) {t : Tunnel}
    (hne : t.authority.toList ≠ [])
    (hvalid : Http.Authority.isValid t.authority.toList = true)
    (hsize : ("https://" ++ t.authority ++ asked u).utf8ByteSize ≤ Http.Uri.sizeLimit) :
    Http.Uri.ofText? ("https://" ++ t.authority ++ asked u) = some (t.target u) := by
  obtain ⟨hslash, hpath, hquery⟩ := h.askedPath_legible
  have hprefix : "https://" = "https" ++ "://" := by decide
  rw [h.asked_eq, hprefix] at hsize ⊢
  rw [h.target_eq]
  have hscheme : ∀ c ∈ "https".toList, Http.Uri.isSchemeChar c = true :=
    List.all_eq_true.1 (by decide)
  exact Http.Uri.ofText?_absolute hscheme (by decide) (by decide) hne hvalid hslash hpath hquery
    hsize

/-! ### Classification -/

theorem hostOf_complete {t : Tunnel} {r : Http.Request} (hr : Relative r.uri)
    (hhost : SimpleHost (Http.Authority.host t.authority.toList)) :
    Received.hostOf (t.complete r) = t.host := by
  have hauthority : (t.complete r).uri.host? =
      some (String.ofList (Http.Authority.host t.authority.toList)) := by
    rw [Http.Uri.host?, complete, hr.target_eq]
    rfl
  rw [Received.hostOf, hauthority, host, bare_eq_stripBrackets hhost]
  simp

/-- Completing a request changes the host and the path of its classification and nothing else:
whatever its fields say, the host is that of the tunnel, and the path is the one asked for. -/
theorem classified_complete {t : Tunnel} {r : Http.Request} (hr : Relative r.uri)
    (hhost : SimpleHost (Http.Authority.host t.authority.toList)) (seq : Nat) :
    Received.ofRequest seq (t.complete r) =
      { Received.ofRequest seq r with
        request := t.complete r
        hostname := t.host
        path := askedPath r.uri } := by
  have hpath : (t.complete r).uri.path = askedPath r.uri := hr.path_target t
  have hquery : Received.queryPairs (t.complete r) = Received.queryPairs r := by
    rw [Received.queryPairs, complete, hr.target_eq]
    rfl
  -- Everything else is read from the method, the fields and the body.
  have hform : Received.formPairs (t.complete r) = Received.formPairs r := rfl
  have hscope : Received.scopeOf (t.complete r) = Received.scopeOf r := rfl
  have haction : Received.targetAction (t.complete r) = Received.targetAction r := rfl
  have hpayload : Received.payloadOf (t.complete r) = Received.payloadOf r := rfl
  have hisJson : Received.isJson (t.complete r) = Received.isJson r := rfl
  have hisForm : Received.isForm (t.complete r) = Received.isForm r := rfl
  simp only [Received.ofRequest, hostOf_complete hr hhost, hpath, hquery, hform, hscope, haction,
    hpayload, hisJson, hisForm]

end Tunnel

namespace Proxy

/-- What the session gets to see of a request in a tunnel.  The target names the authority of the
tunnel with the path and the query of the request; written down and read again it is the same.
The request is classified as it would be by itself, except for host and path: the path is that of
the target, and the host is the one for which the certificate of the tunnel is made when the client
asks for no other name, whatever host the fields of the request name. -/
theorem handleWithin_completes (p : Proxy) (t : Tunnel) (connect : Http.Request)
    (hconnect : Route.of connect = .tunnel t)
    (hread : ∃ s, Http.Uri.ofText? s = some connect.uri)
    (hhost : Tunnel.SimpleHost (Http.Authority.host t.authority.toList))
    (r : Http.Request) (hr : Tunnel.Relative r.uri) :
    let handed := { r with uri := t.target r.uri }
    let text := "https://" ++ t.authority ++ Tunnel.asked r.uri
    ((p.handleWithin t r).2.session = (p.session.handle handed).2 ∧
        (p.handleWithin t r).1.body = (p.session.handle handed).1.body) ∧
      (handed.uri.text = text ∧
        (text.utf8ByteSize ≤ Http.Uri.sizeLimit → Http.Uri.ofText? text = some handed.uri)) ∧
      ∀ seq,
        Received.ofRequest seq handed =
            { Received.ofRequest seq r with
              request := handed
              hostname := t.host
              path := Tunnel.askedPath r.uri } ∧
          p.identify t none = p.identify t (some (Received.ofRequest seq handed).hostname) := by
  intro handed text
  obtain ⟨s, hs⟩ := hread
  have hauthority : connect.uri.authority = some t.authority := by
    unfold Route.of at hconnect
    split at hconnect
    · split at hconnect
      · rename_i hsome
        obtain rfl := Route.tunnel.inj hconnect
        exact hsome
      · cases hconnect
    · split at hconnect <;> cases hconnect
  obtain ⟨hne, hvalid⟩ := Http.Uri.isValid_authority_of_ofText? hs hauthority
  refine ⟨⟨rfl, rfl⟩, ⟨hr.text_target t, hr.ofText?_target hne hvalid⟩, fun seq => ?_⟩
  have hclassified := Tunnel.classified_complete hr hhost seq
  refine ⟨hclassified, ?_⟩
  have hname : (Received.ofRequest seq handed).hostname = t.host := by
    rw [show handed = t.complete r from rfl, hclassified]
  rw [hname]
  rfl

theorem handleWithin_completes_literal :
    let root : Root := ⟨"", [], ⟨[], ⟨[]⟩, 0, 0, ⟨[]⟩, ⟨[], []⟩, []⟩, .edwards, ⟨[]⟩⟩
    let session : Session := .new [] true (.new .disabled false) (.initial none)
    let p : Proxy := ⟨⟨.v4 127 0 0 1, 0, 8080⟩, session, .new root, 41⟩
    let t : Tunnel := ⟨"user@[::1]:8443"⟩
    let connect : Http.Request :=
      { method := .connect, uri := ⟨none, some "user@[::1]:8443", "", none⟩, headers := .empty,
        body := [] }
    let r : Http.Request :=
      { method := ⟨"GET"⟩, uri := ⟨none, none, "/rules", some "x=1&x=2"⟩,
        headers := Http.Headers.empty.insert "host" (Utf8.encode "other.example"), body := [] }
    (Route.of connect = .tunnel t ∧
        Http.Uri.ofText? "user@[::1]:8443" = some connect.uri ∧
        Tunnel.SimpleHost (Http.Authority.host t.authority.toList) ∧
        Tunnel.Relative r.uri) ∧
      (t.host = "::1" ∧ Received.hostOf r = "other.example") ∧
        let handed := { r with uri := t.target r.uri }
        let text := "https://" ++ t.authority ++ Tunnel.asked r.uri
        ((p.handleWithin t r).2.session = (p.session.handle handed).2 ∧
            (p.handleWithin t r).1.body = (p.session.handle handed).1.body) ∧
          (handed.uri.text = text ∧
            (text.utf8ByteSize ≤ Http.Uri.sizeLimit → Http.Uri.ofText? text = some handed.uri)) ∧
          ∀ seq,
            Received.ofRequest seq handed =
                { Received.ofRequest seq r with
                  request := handed
                  hostname := t.host
                  path := Tunnel.askedPath r.uri } ∧
              p.identify t none =
                p.identify t (some (Received.ofRequest seq handed).hostname) := by
  intro root session p t connect r
  have hconnect : Route.of connect = .tunnel t := by decide +kernel
  have hread : Http.Uri.ofText? "user@[::1]:8443" = some connect.uri := by decide +kernel
  have hliteral : Http.Authority.host t.authority.toList = '[' :: ("::1".toList ++ [']']) := by
    decide +kernel
  have hhost : Tunnel.SimpleHost (Http.Authority.host t.authority.toList) :=
    hliteral ▸ Tunnel.SimpleHost.literal (by simp)
  have hr : Tunnel.Relative r.uri := ⟨"/rules?x=1&x=2", by decide +kernel, Or.inl (by decide)⟩
  exact ⟨⟨hconnect, hread, hhost, hr⟩, by decide +kernel,
    handleWithin_completes p t connect hconnect ⟨_, hread⟩ hhost r hr⟩

end Proxy

end CloudStub
