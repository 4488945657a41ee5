import CloudStub.Http.Stamp
import CloudStub.Proofs.Http.Fields
import CloudStub.Proofs.Http.Headers
import CloudStub.Reply.Draft
import Mathlib.Data.List.Nodup

/-!
# Completed drafts

Every draft becomes a legal message, whatever is declared in it.  The header section of the message
is determined name by name: the last legal declaration of a name counts, and the four fields that
every answer has are filled in where nothing is declared for them.

## Main Definitions

- `Draft.IsLegal`: a declared header whose name and value are legal
- `Draft.Declares`: the value that a draft declares for a name
- `Draft.defaults`: the fields that every answer has

## Main Statements

- `Http.isFieldText_date`, `Http.isFieldText_requestId`: the values that are made are legal
- `Draft.first?_headerSection`: the look-up in a header section
- `Draft.complete_message`: the message of a draft

## Design Notes

The section is made by replacements alone, so it is the graph of its look-up
(`Headers.IsSingle.mem_toList`), and only the look-up has to be followed through the steps.  The
date and the request id are filled in without a test of the value, for they are always legal.
-/

namespace CloudStub

/-! ### Values that are made -/

namespace Http

theorem isFieldText_append {s t : String} :
    IsFieldText (s ++ t) ↔ IsFieldText s ∧ IsFieldText t := by
  unfold IsFieldText
  rw [String.toList_append]
  exact List.forall_mem_append

theorem isFieldText_intercalate {sep : String} (hsep : IsFieldText sep) {parts : List String}
    (hparts : ∀ s ∈ parts, IsFieldText s) : IsFieldText (sep.intercalate parts) := by
  unfold IsFieldText
  rw [String.toList_intercalate]
  induction parts with
  | nil => simp
  | cons part rest ih =>
    obtain ⟨hpart, hrest⟩ := List.forall_mem_cons.1 hparts
    cases rest with
    | nil =>
      rw [List.map_singleton, List.intercalate_singleton]
      exact hpart
    | cons next rest =>
      rw [List.map_cons, List.map_cons, List.intercalate_cons_cons]
      exact List.forall_mem_append.2 ⟨List.forall_mem_append.2 ⟨hpart, hsep⟩, ih hrest⟩

theorem IsNameChar.isValueChar {c : Char} (h : IsNameChar c) : IsValueChar c := by
  obtain ⟨k, rfl⟩ := Ascii.exists_fin h.toNat_lt
  revert k
  decide +kernel

theorem isFieldText_padded (width n : Nat) : IsFieldText (Moment.padded width n) := by
  intro c hc
  rw [Moment.padded, String.toList_ofList, List.mem_append] at hc
  rcases hc with hzero | hdigit
  · obtain rfl := List.eq_of_mem_replicate hzero
    decide
  · have hdigit := Nat.isDigit_of_mem_toDigits (by decide) (by decide) hdigit
    exact IsNameChar.isValueChar (.inl (Bool.or_eq_true_iff.2 (.inr hdigit)))

theorem isFieldText_getD {names : List String} (h : ∀ s ∈ names, IsFieldText s) (i : Nat) :
    IsFieldText (names[i]?.getD "") := by
  cases hname : names[i]? with
  | none => exact fun c hc => absurd hc (by simp)
  | some s => exact h s (List.mem_of_getElem? hname)

/-- The date that a message carries is legal. -/
theorem isFieldText_date (m : Moment) : IsFieldText m.stampText := by
  have hweekdays : ∀ s ∈ Moment.weekdayNames, IsFieldText s := by decide
  have hmonths : ∀ s ∈ Moment.monthNames, IsFieldText s := by decide
  have hweekday := isFieldText_getD hweekdays m.weekday
  have hmonth := isFieldText_getD hmonths (m.date.month - 1)
  have hclock : IsFieldText m.clockText :=
    isFieldText_intercalate (by decide) (by simp [isFieldText_padded])
  rw [Moment.stampText]
  simp only [isFieldText_append, hweekday, hmonth, hclock, isFieldText_padded, true_and, and_true]
  decide

theorem isFieldText_hexDigits (bs : Bytes) :
    IsFieldText (String.ofList (bs.flatMap Bytes.hexDigits)) := by
  have hdigit : ∀ k : Fin 16, IsValueChar (Nat.digitChar k) := by decide
  intro c hc
  rw [String.toList_ofList, List.mem_flatMap] at hc
  obtain ⟨b, -, hc⟩ := hc
  have hb := b.toNat_lt
  rw [Bytes.hexDigits, List.mem_cons, List.mem_singleton] at hc
  rcases hc with rfl | rfl
  · exact hdigit ⟨b.toNat / 16, by omega⟩
  · exact hdigit ⟨b.toNat % 16, by omega⟩

theorem exists_of_mem_grouped {sizes : List Nat} {bs : Bytes} {digits : List Char}
    (h : digits ∈ Stamp.grouped sizes bs) :
    ∃ group : Bytes, digits = group.flatMap Bytes.hexDigits := by
  induction sizes generalizing bs with
  | nil => cases h
  | cons n sizes ih =>
    rcases List.mem_cons.1 h with rfl | hrest
    · exact ⟨_, rfl⟩
    · exact ih hrest

/-- The request id that a message carries is legal. -/
theorem isFieldText_requestId (random : Bytes) : IsFieldText (Stamp.requestIdOf random) := by
  refine isFieldText_intercalate (by decide) fun s hs => ?_
  obtain ⟨digits, hdigits, rfl⟩ := List.mem_map.1 hs
  obtain ⟨group, rfl⟩ := exists_of_mem_grouped hdigits
  exact isFieldText_hexDigits group

end Http

/-! ### What a draft says about a name -/

namespace Draft

/-- A header whose name and value are legal. -/
structure IsLegal (header : String × String) : Prop where
  /-- The name can name a field. -/
  name : Http.IsFieldName header.1
  /-- The value can stand in a field. -/
  value : Http.IsFieldText header.2

/-- The value that a draft declares for a name in lower case: that of the last legal header with
the name. -/
def Declares (d : Draft) (name value : String) : Prop :=
  ∃ before spelled after, d.headers = before ++ (spelled, value) :: after ∧
    IsLegal (spelled, value) ∧ Ascii.lowerText spelled = name ∧
      ∀ header ∈ after, IsLegal header → Ascii.lowerText header.1 ≠ name

/-- The content type, or plain text when it is not legal. -/
def legalType (d : Draft) : String :=
  if Http.IsFieldText d.contentType then d.contentType else "text/plain"

/-- The fields that every answer has, with the values that they have unless others are declared. -/
def defaults (d : Draft) : List (String × Http.FieldValue) :=
  [("content-type", .ofText d.legalType), ("server", .ofText "cloudmock"), ("date", .currentDate),
    ("x-amzn-requestid", .freshId)]

/-- The headers that count are the legal ones. -/
theorem field?_eq_some_iff {header : String × String} {name : String} {value : Http.FieldValue} :
    field? header = some (name, value) ↔
      IsLegal header ∧ Ascii.lowerText header.1 = name ∧ value = .ofText header.2 := by
  constructor
  · intro h
    obtain ⟨read, hread, h⟩ := Option.bind_eq_some_iff.1 h
    obtain ⟨hname, rfl⟩ := Http.fieldNameOfText?_eq_some_iff.1 hread
    obtain ⟨hvalue, h⟩ := Option.ite_none_right_eq_some.1 h
    obtain ⟨rfl, rfl⟩ := Prod.mk.inj (Option.some.inj h)
    exact ⟨⟨hname, (Http.isFieldValue_encode_iff _).1 hvalue⟩, rfl, rfl⟩
  · rintro ⟨hlegal, rfl, rfl⟩
    have hread := Http.fieldNameOfText?_eq_some_iff.2 ⟨hlegal.name, rfl⟩
    refine Option.bind_eq_some_iff.2 ⟨_, hread, ?_⟩
    exact if_pos ((Http.isFieldValue_encode_iff _).2 hlegal.value)

/-- What a draft declares for a name is what the last of its fields with the name has. -/
theorem lookup_fields_eq_some_iff (d : Draft) (name : String) (value : Http.FieldValue) :
    (d.headers.filterMap field?).reverse.lookup name = some value ↔
      ∃ text, d.Declares name text ∧ value = .ofText text := by
  rw [List.lookup_eq_some_iff]
  constructor
  · rintro ⟨later, earlier, hfields, hlater⟩
    rw [List.reverse_eq_append_iff, List.reverse_cons, List.append_assoc,
      List.singleton_append] at hfields
    obtain ⟨front, back, hheaders, -, hback⟩ := List.filterMap_eq_append_iff.1 hfields
    obtain ⟨skipped, header, after, rfl, -, hheader, hafter⟩ := List.filterMap_eq_cons_iff.1 hback
    obtain ⟨hlegal, hname, rfl⟩ := field?_eq_some_iff.1 hheader
    have hsplit : d.headers = (front ++ skipped) ++ header :: after := by
      rw [hheaders, List.append_assoc]
    refine ⟨header.2, ⟨_, header.1, after, hsplit, hlegal, hname, ?_⟩, rfl⟩
    -- A later header that counts for the name would be among the later fields.
    intro other hother hotherLegal hsame
    have hfield := field?_eq_some_iff.2 ⟨hotherLegal, hsame, rfl⟩
    have hmem : (name, Http.FieldValue.ofText other.2) ∈ later := by
      rw [← List.mem_reverse, ← hafter]
      exact List.mem_filterMap.2 ⟨other, hother, hfield⟩
    simpa using hlater _ hmem
  · rintro ⟨text, ⟨before, spelled, after, hheaders, hlegal, hname, hlast⟩, rfl⟩
    have hfield := field?_eq_some_iff.2 ⟨hlegal, hname, rfl⟩
    refine ⟨(after.filterMap field?).reverse, (before.filterMap field?).reverse, ?_, ?_⟩
    · rw [hheaders, List.filterMap_append, List.filterMap_cons_some hfield]
      simp
    · intro field hmem
      obtain ⟨header, hheader, heq⟩ := List.mem_filterMap.1 (List.mem_reverse.1 hmem)
      obtain ⟨hlegal', hname', -⟩ := field?_eq_some_iff.1 heq
      exact bne_iff_ne.2 fun hsame => hlast header hheader hlegal' (hname'.trans hsame.symm)

theorem lookup_fields_eq_none_iff (d : Draft) (name : String) :
    (d.headers.filterMap field?).reverse.lookup name = none ↔ ∀ text, ¬ d.Declares name text := by
  rw [Option.eq_none_iff_forall_ne_some]
  constructor
  · intro hnone text hdeclares
    exact hnone _ ((d.lookup_fields_eq_some_iff name _).2 ⟨text, hdeclares, rfl⟩)
  · intro hnone value hvalue
    obtain ⟨text, hdeclares, -⟩ := (d.lookup_fields_eq_some_iff name value).1 hvalue
    exact hnone text hdeclares

/-! ### The header section -/

theorem contentTypeValue_eq (d : Draft) : contentTypeValue d.contentType = .ofText d.legalType := by
  by_cases hlegal : Http.IsFieldText d.contentType
  · rw [legalType, if_pos hlegal]
    exact if_pos ((Http.isFieldValue_encode_iff _).2 hlegal)
  · rw [legalType, if_neg hlegal]
    exact if_neg (mt (Http.isFieldValue_encode_iff _).1 hlegal)

theorem first?_addMissing (h : Http.Headers Http.FieldValue) (name other : String)
    (value : Http.FieldValue) :
    (addMissing h name value).first? other =
      (h.first? other).or (if name = other then some value else none) := by
  rw [addMissing, Http.Headers.contains_eq_isSome]
  split
  · rename_i hthere
    obtain ⟨old, hold⟩ := Option.isSome_iff_exists.1 hthere
    by_cases hname : name = other
    · rw [← hname, hold]
      rfl
    · rw [if_neg hname, Option.or_none]
  · rename_i hmissing
    rw [Http.Headers.first?_insert]
    by_cases hname : name = other
    · rw [← hname, Option.not_isSome_iff_eq_none.1 hmissing]
      rfl
    · rw [if_neg hname, if_neg hname, Option.or_none]

/-- What the look-up finds: what is declared, or else what every answer has. -/
theorem first?_headerSection (d : Draft) (name : String) :
    d.headerSection.first? name =
      ((d.headers.filterMap field?).reverse.lookup name).or (d.defaults.lookup name) := by
  rw [headerSection, first?_addMissing, first?_addMissing, Http.Headers.first?_foldl_insert,
    Http.Headers.first?_insert, Http.Headers.first?_insert, contentTypeValue_eq, Option.or_assoc,
    Option.or_assoc]
  congr 1
  -- The four names are different, so that their order does not matter.
  rw [defaults, Http.Headers.lookup_cons_eq_ite, Http.Headers.lookup_cons_eq_ite,
    Http.Headers.lookup_cons_eq_ite, Http.Headers.lookup_cons_eq_ite, List.lookup_nil]
  by_cases htype : "content-type" = name
  · subst htype
    rfl
  by_cases hserver : "server" = name
  · subst hserver
    rfl
  by_cases hdate : "date" = name
  · subst hdate
    rfl
  rw [if_neg htype, if_neg hserver, if_neg hdate, if_neg htype, if_neg hserver, if_neg hdate]
  rfl

/-- The content type of an answer without declared headers. -/
theorem contentType_complete {d : Draft} (h : d.headers = []) :
    d.complete.headers.first? "content-type" = some (contentTypeValue d.contentType) := by
  show d.headerSection.first? "content-type" = _
  rw [first?_headerSection, h, contentTypeValue_eq]
  rfl

theorem isSingle_addMissing {h : Http.Headers Http.FieldValue} (hsingle : h.IsSingle)
    (name : String) (value : Http.FieldValue) : (addMissing h name value).IsSingle := by
  unfold addMissing
  split
  · exact hsingle
  · exact hsingle.insert name value

theorem isSingle_headerSection (d : Draft) : d.headerSection.IsSingle := by
  refine isSingle_addMissing (isSingle_addMissing (.foldl_insert ?_ _) _ _) _ _
  exact (Http.Headers.isSingle_empty.insert _ _).insert _ _

theorem lookup_defaults_iff (d : Draft) (name : String) (value : Http.FieldValue) :
    d.defaults.lookup name = some value ↔ (name, value) ∈ d.defaults := by
  constructor
  · intro h
    obtain ⟨front, back, heq, -⟩ := List.lookup_eq_some_iff.1 h
    rw [heq]
    exact List.mem_append_right _ (List.mem_cons_self ..)
  · intro h
    simp only [defaults, List.mem_cons, Prod.mk.injEq, List.not_mem_nil, or_false] at h
    rcases h with ⟨rfl, rfl⟩ | ⟨rfl, rfl⟩ | ⟨rfl, rfl⟩ | ⟨rfl, rfl⟩ <;> rfl

/-- The fields of a header section: what is declared, or else what every answer has. -/
theorem mem_headerSection (d : Draft) (name : String) (value : Http.FieldValue) :
    (name, value) ∈ d.headerSection.toList ↔
      (∃ text, d.Declares name text ∧ value = .ofText text) ∨
        ((∀ text, ¬ d.Declares name text) ∧ (name, value) ∈ d.defaults) := by
  rw [d.isSingle_headerSection.mem_toList, first?_headerSection, Option.or_eq_some_iff,
    lookup_fields_eq_some_iff, lookup_fields_eq_none_iff, lookup_defaults_iff]

/-- A name that every answer has is in the header section, be it declared or not. -/
theorem mem_names_headerSection {d : Draft} {name : String} {value : Http.FieldValue}
    (h : (name, value) ∈ d.defaults) : name ∈ d.headerSection.toList.map Prod.fst := by
  by_cases hdeclared : ∃ text, d.Declares name text
  · obtain ⟨text, htext⟩ := hdeclared
    exact List.mem_map_of_mem ((d.mem_headerSection ..).2 (.inl ⟨text, htext, rfl⟩))
  · exact List.mem_map_of_mem ((d.mem_headerSection ..).2 (.inr ⟨not_exists.1 hdeclared, h⟩))

theorem isFieldText_legalType (d : Draft) : Http.IsFieldText d.legalType := by
  rw [legalType]
  split
  · assumption
  · decide

/-- Every value of the header section is legal, whenever it is written. -/
theorem isFieldValue_headerSection {d : Draft} {name : String} {value : Http.FieldValue}
    (h : (name, value) ∈ d.headerSection.toList) (m : Moment) (random : Bytes) :
    Http.isFieldValue (value.stamped (.new m random)) = true := by
  rcases (d.mem_headerSection name value).1 h with ⟨text, ⟨_, _, _, _, hlegal, _⟩, rfl⟩ | ⟨-, h⟩
  · exact (Http.isFieldValue_encode_iff text).2 hlegal.value
  · simp only [defaults, List.mem_cons, Prod.mk.injEq, List.not_mem_nil, or_false] at h
    rcases h with ⟨-, rfl⟩ | ⟨-, rfl⟩ | ⟨-, rfl⟩ | ⟨-, rfl⟩
    · exact (Http.isFieldValue_encode_iff _).2 d.isFieldText_legalType
    · exact (Http.isFieldValue_encode_iff _).2 (by decide)
    · exact (Http.isFieldValue_encode_iff _).2 (Http.isFieldText_date m)
    · exact (Http.isFieldValue_encode_iff _).2 (Http.isFieldText_requestId random)

/-! ### Messages -/

/-- The message of a draft.  The body is the same, and an impossible status becomes 500.  No name
stands twice in the header section, whose fields are, for each name, the last legal header with the
name, or else the one that every answer has; so each of these stands there once.  All values are
legal, those included that are made when the message is written. -/
theorem complete_message (d : Draft) :
    let m := d.complete
    m.body = d.body ∧
      m.status = (if 100 ≤ d.status ∧ d.status ≤ 999 then d.status else 500) ∧
      (m.headers.toList.map Prod.fst).Nodup ∧
      (∀ name value, (name, value) ∈ m.headers.toList ↔
        (∃ text, d.Declares name text ∧ value = .ofText text) ∨
          ((∀ text, ¬ d.Declares name text) ∧ (name, value) ∈ d.defaults)) ∧
      (∀ name ∈ ["content-type", "server", "date", "x-amzn-requestid"],
        (m.headers.toList.map Prod.fst).count name = 1) ∧
      ∀ moment random, ∀ field ∈ m.headers.toList,
        Http.isFieldValue (field.2.stamped (.new moment random)) = true := by
  intro m
  have hstatus : m.status = if 100 ≤ d.status ∧ d.status ≤ 999 then d.status else 500 := by
    show (if isStatus d.status then d.status else 500) = _
    simp only [isStatus, Bool.and_eq_true, decide_eq_true_eq]
  have hnodup : (m.headers.toList.map Prod.fst).Nodup := by
    show (d.headerSection.toList.map Prod.fst).Nodup
    rw [d.isSingle_headerSection.map_fst_toList]
    exact d.isSingle_headerSection.nodup
  refine ⟨rfl, hstatus, hnodup, d.mem_headerSection, fun name hname => ?_,
    fun moment random field hfield => isFieldValue_headerSection hfield moment random⟩
  have hdefault : ∃ value, (name, value) ∈ d.defaults := by
    have hnames : name ∈ d.defaults.map Prod.fst := hname
    obtain ⟨⟨_, value⟩, hmem, rfl⟩ := List.mem_map.1 hnames
    exact ⟨value, hmem⟩
  obtain ⟨value, hvalue⟩ := hdefault
  exact List.count_eq_one_of_mem hnodup (mem_names_headerSection hvalue)

end Draft

end CloudStub
