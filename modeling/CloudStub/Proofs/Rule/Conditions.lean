import CloudStub.Rule.Matcher
import Mathlib.Tactic.MkIffOfInductiveProp

/-!
# Matchers as lists of conditions

A matcher is built condition by condition.  When no condition replaces an earlier one, the matcher
accepts exactly the requests that meet every condition by itself, whatever the order in which the
conditions were added.

## Main Definitions

- `Matcher.Slot`, `Condition.slot?`: the parts of a matcher that hold one value
- `Matcher.SetOnce`: no condition of a list replaces an earlier one
- `Matcher.listedValues`: the values that a list of conditions declares for a parameter
- `Matcher.FindsInPayload`: what an expectation asks of the payload
- `Condition.Meets`: what a condition asks of a request
- `Matcher.AsksOf`: what a matcher asks of a request, parameters left aside
- `Condition.NewTo`: a condition on something that a list of conditions leaves open

## Main Statements

- `Matcher.asksOf_add`: what one more condition does, parameters left aside
- `Matcher.get?_params_addAll`: the parameters that several conditions declare
- `Matcher.accepts_addAll`: a matcher is the conjunction of its conditions

## Design Notes

Parameters are the only conditions that work together: the values of one parameter are compared as
a list.  So a condition is judged beside the list that it belongs to, and the proofs treat the
parameters apart from the rest.  Restricting a matcher to the metadata service twice is the same
as once, so `SetOnce` leaves that condition alone.
-/

namespace CloudStub.Matcher

/-! ### What conditions ask -/

/-- A part of a matcher that holds one value. -/
inductive Slot where
  /-- The destination host. -/
  | hostname
  /-- The service. -/
  | service
  /-- The operation. -/
  | action
  /-- The path. -/
  | path
  /-- The pattern of the path. -/
  | pathPattern
  /-- The method. -/
  | method
  /-- The body. -/
  | body
  /-- The last check. -/
  | predicate
  deriving DecidableEq, Repr

/-- The part that a condition fills, if that part holds one value. -/
def Condition.slot? : Condition → Option Slot
  | .hostname _ => some .hostname
  | .service _ => some .service
  | .action _ => some .action
  | .path _ => some .path
  | .pathPattern _ => some .pathPattern
  | .method _ => some .method
  | .body _ => some .body
  | .predicate _ => some .predicate
  | .metadataOnly | .param .. | .payload .. => none

/-- No two conditions fill the same part, so none replaces an earlier one. -/
def SetOnce (cs : List Condition) : Prop := (cs.filterMap Condition.slot?).Nodup

instance (cs : List Condition) : Decidable (SetOnce cs) :=
  inferInstanceAs (Decidable (List.Nodup _))

/-- The values that conditions declare for a parameter, in order. -/
def listedValues (name : String) (cs : List Condition) : List String :=
  cs.filterMap fun c =>
    match c with
    | .param key value => if key = name then some value else none
    | _ => none

/-- A path finds in the payload of a request what it has to find: there is a payload, the text is
a path, its evaluation has a result, and the result fits the expectation. -/
def FindsInPayload (r : Received) (source : String) (e : Expectation) : Prop :=
  ∃ document p found, r.payload = some document ∧ JmesPath.Path.compile source = .ok p ∧
    p.search document = .ok found ∧ e.Fits found

/-- What a condition asks of a request.  The values of a parameter are those that the whole list
of conditions declares for it. -/
def Condition.Meets (cs : List Condition) (r : Received) : Condition → Prop
  | .hostname s => r.hostname = s
  | .service s => r.service = some s
  | .action s => r.action = some s
  | .path s => r.path = s
  | .pathPattern p => p.foundIn r.path = true
  | .method required => r.request.method = required
  | .metadataOnly => r.hostname = "169.254.169.254" ∨ r.hostname = "fd00:ec2::254"
  | .body s => r.request.body = Utf8.encode s
  | .param key _ => r.params.get? key = some (listedValues key cs)
  | .payload source e => FindsInPayload r source e
  | .predicate f => f r = true

/-- A condition that fills no part which others fill, and declares no parameter which others
declare. -/
structure Condition.NewTo (c : Condition) (cs : List Condition) : Prop where
  /-- The part that it fills is open. -/
  slot : ∀ s, c.slot? = some s → s ∉ cs.filterMap slot?
  /-- The parameter that it declares has no values. -/
  key : ∀ name value, c = .param name value → listedValues name cs = []

/-! ### What a matcher asks -/

/-- What a matcher asks of a request, parameters left aside. -/
@[mk_iff]
structure AsksOf (m : Matcher) (r : Received) : Prop where
  /-- The destination host is the declared one. -/
  hostname : ∀ s, m.hostname = some s → r.hostname = s
  /-- So is the service. -/
  service : ∀ s, m.service = some s → r.service = some s
  /-- So is the operation. -/
  action : ∀ s, m.action = some s → r.action = some s
  /-- So is the path. -/
  path : ∀ s, m.path = some s → r.path = s
  /-- So is the method. -/
  method : ∀ required, m.method = some required → r.request.method = required
  /-- The destination is the metadata service, if it has to be. -/
  metadata : m.metadataOnly = true →
    r.hostname = "169.254.169.254" ∨ r.hostname = "fd00:ec2::254"
  /-- The path contains the declared pattern. -/
  pathPattern : ∀ p, m.pathPattern = some p → p.foundIn r.path = true
  /-- The body is the declared one. -/
  body : ∀ s, m.body = some s → r.request.body = Utf8.encode s
  /-- Every declared path finds in the payload what it has to find. -/
  payload : ∀ source e, (source, e) ∈ m.payload → FindsInPayload r source e
  /-- The last check succeeds. -/
  predicate : ∀ f, m.predicate = some f → f r = true

theorem same_eq_true_iff {declared actual : Option String} :
    same declared actual = true ↔ ∀ s, declared = some s → actual = some s := by
  cases declared with
  | none => simp [same]
  | some s => simp [same]

theorem all_eq_true_iff {α : Type} {p : α → Bool} {o : Option α} :
    o.all p = true ↔ ∀ a, o = some a → p a = true := by
  cases o with
  | none => simp
  | some a => simp

/-- Every payload condition needs a payload of its own accord, so the empty list is no special
case. -/
theorem meetsPayload_eq_all (m : Matcher) (r : Received) :
    m.meetsPayload r = m.payload.all fun c => r.payload.any fun document => finds document c := by
  unfold meetsPayload
  cases m.payload with
  | nil => rfl
  | cons c rest =>
    cases r.payload with
    | none => rfl
    | some document => rfl

theorem finds_eq_true_iff {document : Json} {source : String} {e : Expectation} :
    finds document (source, e) = true ↔
      ∃ p found, JmesPath.Path.compile source = .ok p ∧ p.search document = .ok found ∧
        e.Fits found := by
  simp only [← Expectation.holds_iff]
  unfold finds find?
  cases JmesPath.Path.compile source with
  | error _ => simp
  | ok p => cases hsearch : p.search document <;> simp [hsearch]

theorem meetsPayload_iff {m : Matcher} {r : Received} :
    m.meetsPayload r = true ↔
      ∀ source e, (source, e) ∈ m.payload → FindsInPayload r source e := by
  rw [meetsPayload_eq_all, List.all_eq_true]
  constructor
  · intro h source e hmem
    obtain ⟨document, hdocument, hfinds⟩ := (Option.any_eq_true _ _).1 (h (source, e) hmem)
    obtain ⟨p, found, hp⟩ := finds_eq_true_iff.1 hfinds
    exact ⟨document, p, found, hdocument, hp⟩
  · rintro h ⟨source, e⟩ hmem
    obtain ⟨document, p, found, hdocument, hp⟩ := h source e hmem
    rw [Option.any_eq_true]
    exact ⟨document, hdocument, finds_eq_true_iff.2 ⟨p, found, hp⟩⟩

/-- Declared parameters are met when every look-up that succeeds in them succeeds alike in the
actual ones. -/
theorem meetsParams_iff {declared : Option Params} {actual : Params} :
    meetsParams declared actual = true ↔ ∀ key values,
      (declared.getD Dict.empty).get? key = some values → actual.get? key = some values := by
  cases declared with
  | none => simp [meetsParams]
  | some declared =>
    simp only [meetsParams, List.all_eq_true, beq_iff_eq, Option.getD_some]
    constructor
    · intro h key values hget
      exact h (key, values) ((Dict.get?_eq_some_iff declared).1 hget)
    · intro h kv hmem
      exact h kv.1 kv.2 ((Dict.get?_eq_some_iff declared).2 hmem)

/-- A matcher that is not strict accepts the requests that meet what it asks, with the declared
parameters among theirs. -/
theorem accepts_iff {m : Matcher} (h : m.strict = false) (r : Received) :
    m.accepts r = true ↔ m.AsksOf r ∧ ∀ key values,
      (m.params.getD Dict.empty).get? key = some values → r.params.get? key = some values := by
  have hmetadata : (!m.metadataOnly || metadataHosts.contains r.hostname) = true ↔
      (m.metadataOnly = true → r.hostname = "169.254.169.254" ∨ r.hostname = "fd00:ec2::254") := by
    cases m.metadataOnly <;> simp [metadataHosts]
  have hbody : (m.body.all fun s => Utf8.encode s == r.request.body) = true ↔
      ∀ s, m.body = some s → r.request.body = Utf8.encode s := by
    simp only [all_eq_true_iff, beq_iff_eq, eq_comm (a := r.request.body)]
  have hmethod : (m.method.all fun method => method = r.request.method) = true ↔
      ∀ required, m.method = some required → r.request.method = required := by
    simp only [all_eq_true_iff, decide_eq_true_eq, eq_comm (a := r.request.method)]
  simp only [accepts, h, Bool.false_or, Bool.not_false, Bool.true_or, Bool.and_true,
    Bool.and_eq_true, meetsTarget, same_eq_true_iff, Option.some.injEq, hmetadata, hbody, hmethod,
    all_eq_true_iff, meetsPayload_iff, meetsParams_iff, asksOf_iff]
  constructor
  · rintro ⟨⟨⟨⟨⟨⟨⟨⟨⟨⟨hhostname, hservice⟩, haction⟩, hpath⟩, hmethod⟩, hmetadata⟩, hpattern⟩,
      hbody⟩, hparams⟩, hpayload⟩, hpredicate⟩
    exact ⟨⟨hhostname, hservice, haction, hpath, hmethod, hmetadata, hpattern, hbody, hpayload,
      hpredicate⟩, hparams⟩
  · rintro ⟨⟨hhostname, hservice, haction, hpath, hmethod, hmetadata, hpattern, hbody, hpayload,
      hpredicate⟩, hparams⟩
    exact ⟨⟨⟨⟨⟨⟨⟨⟨⟨⟨hhostname, hservice⟩, haction⟩, hpath⟩, hmethod⟩, hmetadata⟩, hpattern⟩,
      hbody⟩, hparams⟩, hpayload⟩, hpredicate⟩

/-! ### One more condition -/

/-- Whether a part of a matcher is not filled yet. -/
def isOpen (m : Matcher) : Slot → Bool
  | .hostname => m.hostname.isNone
  | .service => m.service.isNone
  | .action => m.action.isNone
  | .path => m.path.isNone
  | .pathPattern => m.pathPattern.isNone
  | .method => m.method.isNone
  | .body => m.body.isNone
  | .predicate => m.predicate.isNone

theorem isOpen_any (slot : Slot) : any.isOpen slot = true := by
  cases slot <;> rfl

/-- A condition fills its own part and no other. -/
theorem isOpen_add (m : Matcher) (c : Condition) (slot : Slot) :
    (m.add c).isOpen slot = (m.isOpen slot && c.slot? != some slot) := by
  cases c <;> cases slot <;> simp [add, isOpen, Condition.slot?]

theorem strict_add (m : Matcher) (c : Condition) : (m.add c).strict = m.strict := by
  cases c <;> rfl

/-- One more condition on an open part is asked for beside what the matcher asks already. -/
theorem asksOf_add {m : Matcher} {c : Condition}
    (h : ∀ slot, c.slot? = some slot → m.isOpen slot = true) (cs : List Condition) (r : Received) :
    (m.add c).AsksOf r ↔
      m.AsksOf r ∧ ((∀ key value, c ≠ .param key value) → c.Meets cs r) := by
  rw [asksOf_iff, asksOf_iff]
  -- Of the clauses all but one are as before, and that one says what the condition asks.
  cases c with
  | payload source e =>
    have hpayload : (∀ source' e', (source', e') ∈ m.payload ++ [(source, e)] →
        FindsInPayload r source' e') ↔
          (∀ source' e', (source', e') ∈ m.payload → FindsInPayload r source' e') ∧
            FindsInPayload r source e := by
      simp only [List.mem_append, List.mem_singleton, Prod.mk.injEq]
      grind
    simp only [add, Condition.Meets, hpayload]
    grind
  | _ =>
    simp only [add, Condition.Meets, Condition.slot?, isOpen] at h ⊢
    grind

/-! ### Several conditions -/

theorem addAll_cons (m : Matcher) (c : Condition) (cs : List Condition) :
    m.addAll (c :: cs) = (m.add c).addAll cs := rfl

theorem strict_addAll (m : Matcher) (cs : List Condition) : (m.addAll cs).strict = m.strict := by
  induction cs generalizing m with
  | nil => rfl
  | cons c rest ih => rw [addAll_cons, ih, strict_add]

theorem listedValues_append (name : String) (cs ds : List Condition) :
    listedValues name (cs ++ ds) = listedValues name cs ++ listedValues name ds :=
  List.filterMap_append

theorem mem_listedValues {name value : String} {cs : List Condition} :
    value ∈ listedValues name cs ↔ .param name value ∈ cs := by
  rw [listedValues, List.mem_filterMap]
  constructor
  · rintro ⟨c, hc, hvalue⟩
    cases c with
    | param key v =>
      by_cases hkey : key = name
      · obtain rfl : v = value := by simpa [hkey] using hvalue
        exact hkey ▸ hc
      · simp [hkey] at hvalue
    | _ => cases hvalue
  · intro h
    exact ⟨_, h, if_pos rfl⟩

/-- The parameters that several conditions declare: the values of each are listed behind those
that it had. -/
theorem get?_params_addAll (m : Matcher) (cs : List Condition) (name : String) :
    ((m.addAll cs).params.getD Dict.empty).get? name =
      if listedValues name cs = [] then (m.params.getD Dict.empty).get? name
      else some (((m.params.getD Dict.empty).get? name).getD [] ++ listedValues name cs) := by
  induction cs generalizing m with
  | nil => rfl
  | cons c rest ih =>
    rw [addAll_cons, ih]
    by_cases hc : ∃ value, c = .param name value
    · obtain ⟨value, rfl⟩ := hc
      have hlisted : listedValues name (.param name value :: rest) =
          value :: listedValues name rest := by simp [listedValues]
      have hget : (((m.add (.param name value)).params.getD Dict.empty).get? name) =
          some (((m.params.getD Dict.empty).get? name).getD [] ++ [value]) :=
        Dict.get?_push_self _ name value
      rw [hlisted, hget]
      by_cases hrest : listedValues name rest = []
      · simp [hrest]
      · simp [hrest]
    · -- Any other condition leaves the values of this parameter alone.
      have hlisted : listedValues name (c :: rest) = listedValues name rest := by
        cases c with
        | param key value =>
          have hkey : key ≠ name := fun heq => hc ⟨value, heq ▸ rfl⟩
          simp [listedValues, hkey]
        | _ => rfl
      have hget : ((m.add c).params.getD Dict.empty).get? name =
          (m.params.getD Dict.empty).get? name := by
        cases c with
        | param key value =>
          have hkey : name ≠ key := fun heq => hc ⟨value, heq ▸ rfl⟩
          exact Dict.get?_push_of_ne _ hkey value
        | _ => rfl
      rw [hlisted, hget]

/-- The conditions beside the parameters are asked for one by one. -/
theorem asksOf_addAll {m : Matcher} {cs : List Condition} (hcs : SetOnce cs)
    (hopen : ∀ slot ∈ cs.filterMap Condition.slot?, m.isOpen slot = true) (ds : List Condition)
    (r : Received) :
    (m.addAll cs).AsksOf r ↔
      m.AsksOf r ∧ ∀ c ∈ cs, (∀ key value, c ≠ .param key value) → c.Meets ds r := by
  induction cs generalizing m with
  | nil => simp [addAll]
  | cons c rest ih =>
    have hfirst : ∀ slot, c.slot? = some slot → m.isOpen slot = true := fun slot hslot =>
      hopen slot (List.mem_filterMap.2 ⟨c, List.mem_cons_self .., hslot⟩)
    have hrest : SetOnce rest := hcs.sublist ((List.sublist_cons_self c rest).filterMap _)
    have hopenRest : ∀ slot ∈ rest.filterMap Condition.slot?, (m.add c).isOpen slot = true := by
      intro slot hslot
      have hmem : slot ∈ (c :: rest).filterMap Condition.slot? :=
        (List.Sublist.filterMap _ (List.sublist_cons_self c rest)).subset hslot
      have hne : c.slot? ≠ some slot := by
        intro heq
        rw [SetOnce, List.filterMap_cons_some heq] at hcs
        exact (List.nodup_cons.1 hcs).1 hslot
      rw [isOpen_add, hopen slot hmem, Bool.true_and, bne_iff_ne]
      exact hne
    rw [addAll_cons, ih hrest hopenRest, asksOf_add hfirst ds, List.forall_mem_cons, and_assoc]

theorem asksOf_any (r : Received) : any.AsksOf r := by
  simp [asksOf_iff, any]

/-- What a condition asks depends on the other conditions only through the values of its own
parameter. -/
theorem Condition.Meets.congr {c : Condition} {cs ds : List Condition} {r : Received}
    (h : ∀ key value, c = .param key value → listedValues key cs = listedValues key ds) :
    c.Meets cs r ↔ c.Meets ds r := by
  cases c with
  | param key value => rw [Meets, Meets, h key value rfl]
  | _ => exact Iff.rfl

/-- Conditions that do not replace each other are accepted together. -/
theorem accepts_addAll_iff {cs : List Condition} (hcs : SetOnce cs) (r : Received) :
    (any.addAll cs).accepts r = true ↔ ∀ c ∈ cs, c.Meets cs r := by
  have hopen : ∀ slot ∈ cs.filterMap Condition.slot?, any.isOpen slot = true :=
    fun slot _ => isOpen_any slot
  have hnone : ∀ name, ((any.params.getD Dict.empty).get? name : Option (List String)) = none :=
    fun _ => rfl
  rw [accepts_iff (strict_addAll any cs), asksOf_addAll hcs hopen cs]
  constructor
  · rintro ⟨⟨-, hasks⟩, hparams⟩ c hc
    by_cases hparam : ∃ key value, c = .param key value
    · obtain ⟨key, value, rfl⟩ := hparam
      have hvalues : listedValues key cs ≠ [] :=
        List.ne_nil_of_mem (mem_listedValues.2 hc)
      refine hparams key _ ?_
      rw [get?_params_addAll, if_neg hvalues, hnone]
      rfl
    · exact hasks c hc fun key value heq => hparam ⟨key, value, heq⟩
  · intro h
    refine ⟨⟨asksOf_any r, fun c hc _ => h c hc⟩, ?_⟩
    intro name values hget
    rw [get?_params_addAll, hnone] at hget
    by_cases hvalues : listedValues name cs = []
    · rw [if_pos hvalues] at hget
      cases hget
    · rw [if_neg hvalues] at hget
      obtain ⟨value, hvalue⟩ := List.exists_mem_of_ne_nil _ hvalues
      have hmeets := h _ (mem_listedValues.1 hvalue)
      rw [Condition.Meets] at hmeets
      exact hmeets.trans hget

/-! ### Order and further conditions -/

theorem SetOnce.perm {cs ds : List Condition} (h : SetOnce cs) (hperm : ds.Perm cs) :
    SetOnce ds :=
  (hperm.filterMap _).nodup_iff.2 h

theorem SetOnce.cons {c : Condition} {cs : List Condition} (h : SetOnce cs) (hnew : c.NewTo cs) :
    SetOnce (c :: cs) := by
  cases hslot : c.slot? with
  | none =>
    rw [SetOnce, List.filterMap_cons_none hslot]
    exact h
  | some slot =>
    rw [SetOnce, List.filterMap_cons_some hslot]
    exact List.nodup_cons.2 ⟨hnew.slot slot hslot, h⟩

/-- A new condition leaves the values of the parameters that are declared already. -/
theorem Condition.NewTo.listedValues_insert {c : Condition} {before after : List Condition}
    (hnew : c.NewTo (before ++ after)) {key value : String}
    (hmem : .param key value ∈ before ++ after) :
    listedValues key (before ++ c :: after) = listedValues key (before ++ after) := by
  have hc : listedValues key [c] = [] := by
    refine List.eq_nil_iff_forall_not_mem.2 fun v hv => ?_
    have heq : c = .param key v := (List.mem_singleton.1 (mem_listedValues.1 hv)).symm
    have hnone := hnew.key key v heq
    exact List.ne_nil_of_mem (mem_listedValues.2 hmem) hnone
  rw [List.append_cons, listedValues_append, listedValues_append, listedValues_append, hc,
    List.append_nil]

/-- A matcher built from conditions that do not replace each other is their conjunction.  It
accepts the requests that meet every condition; the order of the conditions does not matter as
long as each parameter keeps the order of its values; and a condition on something new, wherever it
is added, only takes requests away. -/
theorem accepts_addAll (cs : List Condition) (hcs : SetOnce cs) :
    (∀ r, (any.addAll cs).accepts r = true ↔ ∀ c ∈ cs, c.Meets cs r) ∧
      (∀ ds, ds.Perm cs → (∀ name, listedValues name ds = listedValues name cs) →
        ∀ r, (any.addAll ds).accepts r = (any.addAll cs).accepts r) ∧
      ∀ before c after, cs = before ++ after → c.NewTo cs →
        ∀ r, (any.addAll (before ++ c :: after)).accepts r = true →
          (any.addAll cs).accepts r = true := by
  refine ⟨accepts_addAll_iff hcs, ?_, ?_⟩
  · intro ds hperm hvalues r
    rw [Bool.eq_iff_iff, accepts_addAll_iff (hcs.perm hperm), accepts_addAll_iff hcs]
    have hmeets : ∀ c : Condition, c.Meets ds r ↔ c.Meets cs r :=
      fun c => Condition.Meets.congr fun key _ _ => hvalues key
    constructor
    · exact fun h c hc => (hmeets c).1 (h c (hperm.mem_iff.2 hc))
    · exact fun h c hc => (hmeets c).2 (h c (hperm.mem_iff.1 hc))
  · rintro before c after rfl hnew r haccepts
    have hlonger : SetOnce (before ++ c :: after) := (hcs.cons hnew).perm List.perm_middle
    rw [accepts_addAll_iff hlonger] at haccepts
    rw [accepts_addAll_iff hcs]
    intro d hd
    have hmem : d ∈ before ++ c :: after :=
      List.perm_middle.mem_iff.2 (List.mem_cons_of_mem _ hd)
    refine (Condition.Meets.congr ?_).1 (haccepts d hmem)
    rintro key value rfl
    exact hnew.listedValues_insert hd

/-- The pattern of texts that begin with a slash and the letter l. -/
def samplePattern : Pattern :=
  ⟨"^/l", .seq [.look .textStart, .set (.range 47 47), .set (.range 108 108)]⟩

/-- Conditions of every kind, with two values of one parameter apart from each other. -/
def sampleConditions : List Condition :=
  [.param "Name" "a", .hostname "169.254.169.254", .payload "Entries[0]" (.check Option.isSome),
    .metadataOnly, .param "Other" "x", .method ⟨"PUT"⟩, .param "Name" "b", .path "/latest",
    .service "events", .payload "Missing" (.equals .null), .action "PutEvents",
    .pathPattern samplePattern, .body "\x7b\"Entries\":[\"app\"]\x7d",
    .predicate fun r => r.seq == 7]

/-- A request with two values of a parameter that meets them when the values are `a` and `b`. -/
def sampleRequest (first second : String) : Received :=
  { (default : Received) with
    seq := 7
    request := { (default : Http.Request) with
      method := ⟨"PUT"⟩
      body := Utf8.encode "\x7b\"Entries\":[\"app\"]\x7d" }
    hostname := "169.254.169.254"
    path := "/latest"
    service := some "events"
    action := some "PutEvents"
    params := ((Dict.empty.push "Name" first).push "Name" second).push "Other" "x"
    payload := some (.ofMembers [("Entries", .arr [.str "app"])]) }

/-- One request is accepted, and one with the values of a parameter in the other order refused. -/
theorem accepts_addAll_sampleConditions :
    SetOnce sampleConditions ∧
      (any.addAll sampleConditions).accepts (sampleRequest "a" "b") = true ∧
      (any.addAll sampleConditions).accepts (sampleRequest "b" "a") = false ∧
      (∀ r, (any.addAll sampleConditions).accepts r = true ↔
        ∀ c ∈ sampleConditions, c.Meets sampleConditions r) ∧
      (∀ ds, ds.Perm sampleConditions →
        (∀ name, listedValues name ds = listedValues name sampleConditions) →
        ∀ r, (any.addAll ds).accepts r = (any.addAll sampleConditions).accepts r) ∧
      ∀ before c after, sampleConditions = before ++ after → c.NewTo sampleConditions →
        ∀ r, (any.addAll (before ++ c :: after)).accepts r = true →
          (any.addAll sampleConditions).accepts r = true := by
  have hcs : SetOnce sampleConditions := by decide
  exact ⟨hcs, by decide +kernel, by decide +kernel, accepts_addAll sampleConditions hcs⟩

end CloudStub.Matcher
