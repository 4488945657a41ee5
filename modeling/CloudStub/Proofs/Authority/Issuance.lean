import CloudStub.Authority.Basic
import Mathlib.Data.Finset.Card
import Mathlib.Data.Finset.Image
import Mathlib.Tactic.ByContra

/-!
# Issuing certificates

The authorities of a process take their serial numbers from one counter.  This module follows any
sequence of calls to any of them: which calls fail, which certificates are equal, and what the
serial numbers say about the order of the calls.

## Main Definitions

- `Authority.Nameable`: a host name that can be put into a certificate
- `Issuers`: the authorities of a process with their counter
- `Issuers.fetch`, `Issuers.run`: one call, and several
- `Issuers.Step`: what a call can do
- `Issuers.nameable`: the calls that can be answered with a certificate
- `Issuers.Accounts`: what the state of a process says about the calls behind it
- `Issuers.Served`: a call that some position of a sequence answers with a certificate

## Main Statements

- `Issuers.step_fetch`: a call finds a certificate, issues one or fails
- `Issuers.Accounts.step`: one more call
- `Issuers.run_issues`: the answers to a sequence of calls, and the state behind it

## Design Notes

Calls and certificates are tied together by `Issuers.held`, the certificate that a process keeps for
a call; `Step` and `Accounts` speak of nothing else.  The state of a process after a run is
known from the calls alone, up to the contents of the certificates: `nameable` lists the calls that
are answered, each once.
-/

namespace CloudStub

namespace Authority

/-- A host name that can be put into a certificate: an address, or a text in ASCII. -/
def Nameable (host : String) : Prop :=
  (Http.IpAddress.ofText? host).isSome = true ∨ Ascii.isText host = true

instance (host : String) : Decidable (Nameable host) :=
  inferInstanceAs (Decidable (_ = true ∨ _ = true))

theorem not_nameable {host : String} :
    ¬ Nameable host ↔ Http.IpAddress.ofText? host = none ∧ Ascii.isText host = false := by
  simp [Nameable]

/-- The only name of a certificate for a host name: the address, or else the host name. -/
def nameFor (host : String) : AltName :=
  match Http.IpAddress.ofText? host with
  | some a => .address a
  | none => .dns host

theorem altName_of_nameable {host : String} (h : Nameable host) :
    altName host = .ok (nameFor host) := by
  unfold altName nameFor
  cases haddress : Http.IpAddress.ofText? host with
  | some a => rfl
  | none =>
    have hascii : Ascii.isText host = true := by simpa [Nameable, haddress] using h
    simp [hascii]

theorem altName_of_not_nameable {host : String} (h : ¬ Nameable host) :
    altName host = .error ⟨host⟩ := by
  obtain ⟨haddress, hascii⟩ := not_nameable.1 h
  simp [altName, haddress, hascii]

/-- The certificate that an authority issues for a host name. -/
def leafFor (a : Authority) (serial : Nat) (host : String) : Leaf :=
  ⟨serial, subject (nameFor host), a.root.issuer, nameFor host⟩

theorem fetch_of_issued {a : Authority} {host : String} {leaf : Leaf}
    (h : a.issued.get? host = some leaf) (counter : Nat) :
    a.fetch counter host = .ok (leaf, a, counter) := by
  rw [fetch, h]

theorem fetch_of_nameable {a : Authority} {host : String} (h : a.issued.get? host = none)
    (hname : Nameable host) (counter : Nat) :
    a.fetch counter host =
      .ok (a.leafFor (counter + 1) host,
        { a with issued := a.issued.insert host (a.leafFor (counter + 1) host) }, counter + 1) := by
  rw [fetch, h]
  simp only [issue, altName_of_nameable hname]
  rfl

theorem fetch_of_not_nameable {a : Authority} {host : String} (h : a.issued.get? host = none)
    (hname : ¬ Nameable host) (counter : Nat) :
    a.fetch counter host = .error ⟨host⟩ := by
  rw [fetch, h]
  simp only [issue, altName_of_not_nameable hname]
  rfl

end Authority

/-- The authorities of a process, and the counter that they share. -/
structure Issuers (ι : Type) where
  /-- The authorities. -/
  member : ι → Authority
  /-- The last serial number that was given out. -/
  counter : Nat

namespace Issuers

open Authority (Nameable nameFor leafFor)

variable {ι : Type}

/-- The process that has issued nothing. -/
def new (roots : ι → Root) (start : Nat) : Issuers ι := ⟨fun k => .new (roots k), start⟩

/-- The certificate that is kept for a call: an authority and a host name. -/
def held (s : Issuers ι) (call : ι × String) : Option Leaf :=
  (s.member call.1).issued.get? call.2

variable [DecidableEq ι]

/-- One call: the answer, and the process behind it. -/
def fetch (s : Issuers ι) (call : ι × String) : Except InvalidHostname Leaf × Issuers ι :=
  match (s.member call.1).fetch s.counter call.2 with
  | .ok (leaf, authority, counter) =>
    (.ok leaf, ⟨Function.update s.member call.1 authority, counter⟩)
  | .error e => (.error e, s)

/-- Several calls: the answers, and the process behind them. -/
def run (s : Issuers ι) : List (ι × String) → List (Except InvalidHostname Leaf) × Issuers ι
  | [] => ([], s)
  | call :: rest =>
    let (answer, s) := s.fetch call
    let (answers, s) := s.run rest
    (answer :: answers, s)

/-! ### One call -/

/-- What a call can do. -/
inductive Step (s : Issuers ι) (call : ι × String) :
    Except InvalidHostname Leaf → Issuers ι → Prop where
  /-- The certificate is there. -/
  | found {leaf : Leaf} (hheld : s.held call = some leaf) : Step s call (.ok leaf) s
  /-- A certificate is issued and kept. -/
  | issued {leaf : Leaf} {t : Issuers ι} (hnew : s.held call = none) (hname : Nameable call.2)
    (hleaf : leaf = (s.member call.1).leafFor (s.counter + 1) call.2)
    (hcounter : t.counter = s.counter + 1)
    (hheld : ∀ other, t.held other = if other = call then some leaf else s.held other) :
    Step s call (.ok leaf) t
  /-- The host name cannot be put into a certificate. -/
  | refused (hnew : s.held call = none) (hname : ¬ Nameable call.2) :
    Step s call (.error ⟨call.2⟩) s

/-- A call finds a certificate, issues one or fails. -/
theorem step_fetch (s : Issuers ι) (call : ι × String) :
    s.Step call (s.fetch call).1 (s.fetch call).2 := by
  obtain ⟨k, host⟩ := call
  cases hheld : (s.member k).issued.get? host with
  | some leaf =>
    have hfetch : s.fetch (k, host) = (.ok leaf, s) := by
      rw [fetch, Authority.fetch_of_issued hheld]
      simp
    rw [hfetch]
    exact .found hheld
  | none =>
    by_cases hname : Nameable host
    · rw [fetch, Authority.fetch_of_nameable hheld hname]
      refine .issued hheld hname rfl rfl fun ⟨j, other⟩ => ?_
      by_cases hj : j = k
      · subst hj
        by_cases hother : other = host
        · subst hother
          simp [held, Dict.insert]
        · simp [held, Dict.insert, hother, Dict.get?_update_of_ne]
      · simp [held, hj]
    · rw [fetch, Authority.fetch_of_not_nameable hheld hname]
      exact .refused hheld hname

/-- A certificate that is kept stays. -/
theorem Step.held {s t : Issuers ι} {call other : ι × String}
    {answer : Except InvalidHostname Leaf} (h : s.Step call answer t) {leaf : Leaf}
    (hother : s.held other = some leaf) : t.held other = some leaf := by
  cases h with
  | found | refused => exact hother
  | issued hnew hname hleaf hcounter hheld =>
    have hne : other ≠ call := by
      rintro rfl
      rw [hnew] at hother
      cases hother
    rw [hheld, if_neg hne, hother]

/-- A call that is answered with a certificate finds the same one from then on. -/
theorem Step.held_self {s t : Issuers ι} {call : ι × String} {leaf : Leaf}
    (h : s.Step call (.ok leaf) t) : t.held call = some leaf := by
  cases h with
  | found hheld => exact hheld
  | issued hnew hname hleaf hcounter hheld => rw [hheld, if_pos rfl]

theorem Step.serial_of_new {s t : Issuers ι} {call : ι × String} {leaf : Leaf}
    (h : s.Step call (.ok leaf) t) (hnew : s.held call = none) :
    leaf.serial = s.counter + 1 := by
  cases h with
  | found hheld =>
    rw [hnew] at hheld
    cases hheld
  | issued hnew hname hleaf =>
    rw [hleaf]
    rfl

/-! ### The calls behind a state -/

/-- The calls that a process can answer with a certificate. -/
def nameable (calls : List (ι × String)) : Finset (ι × String) :=
  (calls.filter fun call => Nameable call.2).toFinset

/-- What the state of a process says about the calls behind it. -/
structure Accounts (start : Nat) (calls : List (ι × String)) (s : Issuers ι) : Prop where
  /-- A certificate is kept for each call that could be answered with one. -/
  held_iff : ∀ call, (s.held call).isSome = true ↔ call ∈ nameable calls
  /-- Each certificate is for the host name of its call. -/
  named : ∀ call leaf, s.held call = some leaf → leaf.altName = nameFor call.2
  /-- Serial numbers lie behind the start and up to the counter. -/
  serials : ∀ call leaf, s.held call = some leaf → start < leaf.serial ∧ leaf.serial ≤ s.counter
  /-- Certificates for different calls have different serial numbers. -/
  distinct : ∀ call other leaf leaf', s.held call = some leaf → s.held other = some leaf' →
    leaf.serial = leaf'.serial → call = other
  /-- The counter moved by one for each call that could be answered. -/
  counter : s.counter = start + (nameable calls).card

theorem mem_nameable {calls : List (ι × String)} {call : ι × String} :
    call ∈ nameable calls ↔ call ∈ calls ∧ Nameable call.2 := by
  simp [nameable]

theorem nameable_concat_of_nameable (calls : List (ι × String)) {call : ι × String}
    (h : Nameable call.2) : nameable (calls ++ [call]) = insert call (nameable calls) := by
  ext other
  simp only [mem_nameable, List.mem_append, List.mem_singleton, Finset.mem_insert]
  constructor
  · rintro ⟨hmem | rfl, hname⟩
    · exact Or.inr ⟨hmem, hname⟩
    · exact Or.inl rfl
  · rintro (rfl | ⟨hmem, hname⟩)
    · exact ⟨Or.inr rfl, h⟩
    · exact ⟨Or.inl hmem, hname⟩

theorem nameable_concat_of_not_nameable (calls : List (ι × String)) {call : ι × String}
    (h : ¬ Nameable call.2) : nameable (calls ++ [call]) = nameable calls := by
  ext other
  simp only [mem_nameable, List.mem_append, List.mem_singleton]
  constructor
  · rintro ⟨hmem | rfl, hname⟩
    · exact ⟨hmem, hname⟩
    · exact absurd hname h
  · rintro ⟨hmem, hname⟩
    exact ⟨Or.inl hmem, hname⟩

namespace Accounts

variable {start : Nat} {calls : List (ι × String)} {s t : Issuers ι} {call : ι × String}
  {answer : Except InvalidHostname Leaf}

theorem new (roots : ι → Root) (start : Nat) : Accounts start [] (Issuers.new roots start) where
  held_iff _ := by simp [held, Issuers.new, Authority.new, mem_nameable]
  named _ _ h := by simp [held, Issuers.new, Authority.new] at h
  serials _ _ h := by simp [held, Issuers.new, Authority.new] at h
  distinct _ _ _ _ h := by simp [held, Issuers.new, Authority.new] at h
  counter := rfl

/-- One more call. -/
theorem step (h : Accounts start calls s) (hstep : s.Step call answer t) :
    Accounts start (calls ++ [call]) t := by
  cases hstep with
  | found hheld =>
    have hold : call ∈ nameable calls := (h.held_iff call).1 (by rw [hheld]; rfl)
    have hsame : nameable (calls ++ [call]) = nameable calls := by
      rw [nameable_concat_of_nameable calls (mem_nameable.1 hold).2, Finset.insert_eq_of_mem hold]
    exact ⟨by rw [hsame]; exact h.held_iff, h.named, h.serials, h.distinct,
      by rw [hsame]; exact h.counter⟩
  | refused hnew hname =>
    have hsame := nameable_concat_of_not_nameable calls hname
    exact ⟨by rw [hsame]; exact h.held_iff, h.named, h.serials, h.distinct,
      by rw [hsame]; exact h.counter⟩
  | @issued leaf _ hnew hname hleaf hcounter hheld =>
    have hmore := nameable_concat_of_nameable calls hname
    have hserial : leaf.serial = s.counter + 1 := by
      rw [hleaf]
      rfl
    -- The certificates that were there are below the new one.
    have hbelow : ∀ other old, s.held other = some old → old.serial < leaf.serial :=
      fun other old hold => by
        have := (h.serials other old hold).2
        omega
    refine ⟨fun other => ?_, fun other l hl => ?_, fun other l hl => ?_,
      fun one two l l' hl hl' heq => ?_, ?_⟩
    · rw [hheld, hmore, Finset.mem_insert]
      by_cases heq : other = call
      · simp [heq]
      · rw [if_neg heq, h.held_iff]
        simp [heq]
    · rw [hheld] at hl
      split at hl
      · rename_i heq
        obtain rfl := Option.some.inj hl
        rw [heq, hleaf]
        rfl
      · exact h.named other l hl
    · rw [hheld] at hl
      split at hl
      · obtain rfl := Option.some.inj hl
        have := h.counter
        omega
      · have := h.serials other l hl
        omega
    · rw [hheld] at hl hl'
      split at hl <;> split at hl'
      · rename_i hone htwo
        rw [hone, htwo]
      · obtain rfl := Option.some.inj hl
        have := hbelow two l' hl'
        omega
      · obtain rfl := Option.some.inj hl'
        have := hbelow one l hl
        omega
      · exact h.distinct one two l l' hl hl' heq
    · have hnot : call ∉ nameable calls := fun hmem => by
        have hsome := (h.held_iff call).2 hmem
        rw [hnew] at hsome
        cases hsome
      rw [hcounter, h.counter, hmore, Finset.card_insert_of_notMem hnot]
      omega

/-- A call fails exactly for host names that cannot be put into a certificate. -/
theorem error_iff (h : Accounts start calls s) (hstep : s.Step call answer t) :
    (∃ e, answer = .error e) ↔ ¬ Nameable call.2 := by
  cases hstep with
  | found hheld =>
    have hname : Nameable call.2 := (mem_nameable.1 ((h.held_iff call).1 (by rw [hheld]; rfl))).2
    simp [hname]
  | issued hnew hname => simp [hname]
  | refused hnew hname => simp [hname]

/-- The number of certificates that an authority keeps is the number of host names that could be
put into one. -/
theorem size_member (h : Accounts start calls s) (k : ι) {hosts : Finset String}
    (hhosts : ∀ host, host ∈ hosts ↔ (k, host) ∈ nameable calls) :
    (s.member k).size = hosts.card := by
  have hkeys : ((s.member k).issued.toList.map Prod.fst).toFinset = hosts := by
    ext host
    rw [List.mem_toFinset, Dict.mem_keys, hhosts, ← h.held_iff]
    rfl
  rw [← hkeys, List.toFinset_card_of_nodup (Dict.nodup_keys _), List.length_map]
  rfl

end Accounts

/-! ### Several calls -/

theorem run_append (s : Issuers ι) (first second : List (ι × String)) :
    s.run (first ++ second) =
      ((s.run first).1 ++ ((s.run first).2.run second).1, ((s.run first).2.run second).2) := by
  induction first generalizing s with
  | nil => rfl
  | cons call rest ih => simp only [List.cons_append, run, ih]

theorem length_run (s : Issuers ι) (calls : List (ι × String)) :
    (s.run calls).1.length = calls.length := by
  induction calls generalizing s with
  | nil => rfl
  | cons call rest ih => simp only [run, List.length_cons, ih]

/-- The state behind any calls accounts for them. -/
theorem accounts_run (roots : ι → Root) (start : Nat) (calls : List (ι × String)) :
    Accounts start calls ((new roots start).run calls).2 := by
  induction calls using List.reverseRecOn with
  | nil => exact .new roots start
  | append_singleton calls call ih =>
    rw [run_append]
    exact ih.step (step_fetch _ call)

/-- A certificate that is kept stays through any calls. -/
theorem held_run {s : Issuers ι} {other : ι × String} {leaf : Leaf}
    (h : s.held other = some leaf) (calls : List (ι × String)) :
    (s.run calls).2.held other = some leaf := by
  induction calls generalizing s with
  | nil => exact h
  | cons call rest ih => exact ih ((step_fetch s call).held h)

/-- The call at a position, between the states in front of it and behind it. -/
theorem step_at (s : Issuers ι) {calls : List (ι × String)} {i : Nat} {call : ι × String}
    (h : calls[i]? = some call) :
    ∃ answer, (s.run calls).1[i]? = some answer ∧
      (s.run (calls.take i)).2.Step call answer (s.run (calls.take (i + 1))).2 := by
  obtain ⟨hi, rfl⟩ := List.getElem?_eq_some_iff.1 h
  have hlength : (s.run (calls.take i)).1.length = i := by
    rw [length_run, List.length_take_of_le (Nat.le_of_lt hi)]
  have hanswer : (s.run calls).1[i]? = some ((s.run (calls.take i)).2.fetch calls[i]).1 := by
    have hsplit : calls = calls.take i ++ calls[i] :: calls.drop (i + 1) := by
      rw [← List.drop_eq_getElem_cons hi, List.take_append_drop]
    conv_lhs => rw [hsplit, run_append]
    rw [List.getElem?_append_right (Nat.le_of_eq hlength), hlength, Nat.sub_self]
    rfl
  have hbehind : (s.run (calls.take (i + 1))).2 =
      ((s.run (calls.take i)).2.fetch calls[i]).2 := by
    rw [List.take_succ_eq_append_getElem hi, run_append]
    rfl
  rw [hbehind]
  exact ⟨_, hanswer, step_fetch _ _⟩

theorem held_take (s : Issuers ι) {calls : List (ι × String)} {m n : Nat} (h : m ≤ n)
    {call : ι × String} {leaf : Leaf} (hheld : (s.run (calls.take m)).2.held call = some leaf) :
    (s.run (calls.take n)).2.held call = some leaf := by
  obtain ⟨rest, hrest⟩ := List.take_prefix_take_left (l := calls) h
  rw [← hrest, run_append]
  exact held_run hheld rest

/-- What is answered is kept. -/
theorem held_of_answer (s : Issuers ι) {calls : List (ι × String)} {i : Nat} {call : ι × String}
    (h : calls[i]? = some call) {leaf : Leaf} (hanswer : (s.run calls).1[i]? = some (.ok leaf)) :
    (s.run (calls.take (i + 1))).2.held call = some leaf := by
  obtain ⟨answer, hat, hstep⟩ := s.step_at h
  obtain rfl := Option.some.inj (hat.symm.trans hanswer)
  exact hstep.held_self

/-- A call that fails leaves everything as it was. -/
theorem behind_of_error (s : Issuers ι) {calls : List (ι × String)} {i : Nat}
    {call : ι × String} (h : calls[i]? = some call) {e : InvalidHostname}
    (hanswer : (s.run calls).1[i]? = some (.error e)) :
    (s.run (calls.take (i + 1))).2 = (s.run (calls.take i)).2 := by
  obtain ⟨answer, hat, hstep⟩ := s.step_at h
  obtain rfl := Option.some.inj (hat.symm.trans hanswer)
  generalize (s.run (calls.take (i + 1))).2 = t at hstep
  cases hstep with
  | refused => rfl

/-- A call that some position of a sequence answers with a certificate. -/
def Served (calls : List (ι × String)) (answers : List (Except InvalidHostname Leaf))
    (call : ι × String) : Prop :=
  ∃ (i : Nat) (leaf : Leaf), calls[i]? = some call ∧ answers[i]? = some (.ok leaf)

section New

variable {roots : ι → Root} {start : Nat} {calls : List (ι × String)} {i j : Nat}
  {call other : ι × String} {leaf leaf' : Leaf}

theorem error_iff_at (h : calls[i]? = some call) :
    (∃ e, ((new roots start).run calls).1[i]? = some (.error e)) ↔ ¬ Nameable call.2 := by
  obtain ⟨answer, hat, hstep⟩ := (new roots start).step_at h
  rw [← (accounts_run roots start (calls.take i)).error_iff hstep, hat]
  simp

/-- A call for a host name that can be put into a certificate is answered with one. -/
theorem exists_answer (h : calls[i]? = some call) (hname : Nameable call.2) :
    ∃ leaf, ((new roots start).run calls).1[i]? = some (.ok leaf) := by
  obtain ⟨answer, hat, -⟩ := (new roots start).step_at h
  cases answer with
  | ok leaf => exact ⟨leaf, hat⟩
  | error e => exact absurd hname ((error_iff_at h).1 ⟨e, hat⟩)

theorem nameable_of_answer (h : calls[i]? = some call)
    (hanswer : ((new roots start).run calls).1[i]? = some (.ok leaf)) : Nameable call.2 := by
  by_contra hname
  obtain ⟨e, he⟩ := (error_iff_at h).2 hname
  rw [hanswer] at he
  cases he

/-- A certificate that answers a call is kept behind all calls. -/
theorem held_of_answer_new (h : calls[i]? = some call)
    (hanswer : ((new roots start).run calls).1[i]? = some (.ok leaf)) :
    ((new roots start).run calls).2.held call = some leaf := by
  have hi : i < calls.length := (List.getElem?_eq_some_iff.1 h).1
  have hheld := held_take (new roots start) hi (held_of_answer _ h hanswer)
  rwa [List.take_length] at hheld

/-- The same call is answered with the same certificate. -/
theorem answer_eq (h : calls[i]? = some call)
    (hanswer : ((new roots start).run calls).1[i]? = some (.ok leaf))
    (hj : calls[j]? = some call) :
    ((new roots start).run calls).1[j]? = some (.ok leaf) := by
  obtain ⟨other, hother⟩ := exists_answer hj (nameable_of_answer h hanswer)
  have hheld := held_of_answer_new h hanswer
  rw [held_of_answer_new hj hother] at hheld
  rw [hother, Option.some.inj hheld]

/-- A call that was not made before is answered with a serial number above all earlier ones. -/
theorem serial_lt (h : calls[i]? = some call)
    (hanswer : ((new roots start).run calls).1[i]? = some (.ok leaf))
    (hj : calls[j]? = some other)
    (hanswer' : ((new roots start).run calls).1[j]? = some (.ok leaf'))
    (hlt : i < j) (hfirst : other ∉ calls.take j) : leaf.serial < leaf'.serial := by
  have haccounts := accounts_run roots start (calls.take j)
  have hearlier := haccounts.serials call leaf (held_take _ hlt (held_of_answer _ h hanswer))
  have hnew : ((new roots start).run (calls.take j)).2.held other = none := by
    rw [← Option.not_isSome_iff_eq_none, haccounts.held_iff]
    exact fun hmem => hfirst (mem_nameable.1 hmem).1
  obtain ⟨answer, hat, hstep⟩ := (new roots start).step_at hj
  obtain rfl := Option.some.inj (hat.symm.trans hanswer')
  have hserial := hstep.serial_of_new hnew
  omega

theorem served_iff :
    Served calls ((new roots start).run calls).1 call ↔ call ∈ nameable calls := by
  rw [mem_nameable]
  constructor
  · rintro ⟨i, leaf, h, hanswer⟩
    exact ⟨List.mem_of_getElem? h, nameable_of_answer h hanswer⟩
  · rintro ⟨hmem, hname⟩
    obtain ⟨i, h⟩ := List.mem_iff_getElem?.1 hmem
    have hanswered : ∃ leaf, ((new roots start).run calls).1[i]? = some (.ok leaf) :=
      exists_answer h hname
    obtain ⟨leaf, hanswer⟩ := hanswered
    exact ⟨i, leaf, h, hanswer⟩

end New

/-- The answers to any calls to the authorities of a process.  A call fails exactly for a host name
that is neither an address nor ASCII, and then leaves everything as it was.  Any other call is
answered with a certificate whose only name is that address or that host name, and which answers
every other such call too.  Serial numbers differ for different calls, and a call that was not made
before gets one above all earlier ones.  An authority keeps as many certificates as it was asked
for host names with success, and the counter moved by the number of different calls with success,
so serial numbers do not leave the range that the calls take up. -/
theorem run_issues (roots : ι → Root) (start : Nat) (calls : List (ι × String)) :
    let answers := ((new roots start).run calls).1
    let behind := fun n => ((new roots start).run (calls.take n)).2
    let last := ((new roots start).run calls).2
    answers.length = calls.length ∧
      (∀ (i : Nat) (k : ι) (host : String), calls[i]? = some (k, host) →
        ((∃ e, answers[i]? = some (.error e)) ↔
            Http.IpAddress.ofText? host = none ∧ Ascii.isText host = false) ∧
          (∀ e, answers[i]? = some (.error e) → behind (i + 1) = behind i) ∧
          ∀ leaf : Leaf, answers[i]? = some (.ok leaf) →
            leaf.altName =
                (match Http.IpAddress.ofText? host with
                | some a => .address a
                | none => .dns host) ∧
              start < leaf.serial ∧ leaf.serial ≤ last.counter ∧
              ∀ j : Nat, calls[j]? = some (k, host) → answers[j]? = some (.ok leaf)) ∧
      (∀ (i j : Nat) (call other : ι × String) (leaf leaf' : Leaf),
        calls[i]? = some call → calls[j]? = some other →
        answers[i]? = some (.ok leaf) → answers[j]? = some (.ok leaf') →
          (call ≠ other → leaf.serial ≠ leaf'.serial) ∧
            (i < j → other ∉ calls.take j → leaf.serial < leaf'.serial)) ∧
      (∀ k, ∃ hosts : Finset String,
        (∀ host, host ∈ hosts ↔ Served calls answers (k, host)) ∧
          (last.member k).size = hosts.card) ∧
      ∃ served : Finset (ι × String),
        (∀ call, call ∈ served ↔ Served calls answers call) ∧
          last.counter = start + served.card := by
  intro answers behind last
  have haccounts : Accounts start calls last := accounts_run roots start calls
  refine ⟨length_run _ calls, fun i k host h => ⟨?_, ?_, ?_⟩, ?_, fun k => ?_, ?_⟩
  · exact (error_iff_at h).trans Authority.not_nameable
  · exact fun e he => behind_of_error _ h he
  · intro leaf hleaf
    have hheld := held_of_answer_new h hleaf
    have hserial := haccounts.serials _ leaf hheld
    have hname : leaf.altName = nameFor host := haccounts.named (k, host) leaf hheld
    rw [nameFor] at hname
    exact ⟨hname, hserial.1, hserial.2, fun j hj => answer_eq h hleaf hj⟩
  · intro i j call other leaf leaf' hi hj hleaf hleaf'
    refine ⟨fun hne heq => hne ?_, serial_lt hi hleaf hj hleaf'⟩
    exact haccounts.distinct call other leaf leaf' (held_of_answer_new hi hleaf)
      (held_of_answer_new hj hleaf') heq
  · have hhosts : ∀ host, host ∈ ((nameable calls).filter (·.1 = k)).image Prod.snd ↔
        (k, host) ∈ nameable calls := by
      simp
    exact ⟨_, fun host => (hhosts host).trans served_iff.symm, haccounts.size_member k hhosts⟩
  · exact ⟨nameable calls, fun call => served_iff.symm, haccounts.counter⟩

end Issuers

end CloudStub
