import CloudStub.Http.Message

/-!
# Texts in header sections

Names and values of fields are bytes, while declarations and comparisons are about texts.  Here is
which texts are legal names and values, said of their characters, and which values read as the text
that was written.

## Main Definitions

- `Http.IsReadableChar`, `Http.IsValueChar`, `Http.IsNameChar`: the characters of readable values,
  of values and of names
- `Http.IsFieldText`, `Http.IsFieldName`: a text that is a field value, and one that is a field name

## Main Statements

- `Http.readable?_encode`: a readable value is the text that was written
- `Http.isFieldValue_encode_iff`: the texts that are field values
- `Http.fieldNameOfText?_eq_some_iff`: the texts that are field names, and their lowercase form
-/

namespace CloudStub

/-! ### Characters as bytes -/

/-- The ASCII characters are the first 128. -/
theorem Ascii.exists_fin {c : Char} (h : c.toNat < 128) : ∃ k : Fin 128, Char.ofNat k = c :=
  ⟨⟨c.toNat, h⟩, Char.ofNat_toNat c⟩

namespace Utf8

theorem utf8EncodeChar_ascii {c : Char} (h : c.toNat < 128) :
    String.utf8EncodeChar c = [UInt8.ofNat c.toNat] := by
  have hvalue : c.val.toNat ≤ 127 := Nat.lt_succ_iff.1 h
  unfold String.utf8EncodeChar
  simp only [hvalue, if_true]
  rfl

/-- The bytes of a character outside ASCII lie outside ASCII. -/
theorem le_of_mem_utf8EncodeChar {c : Char} (h : 128 ≤ c.toNat) {b : UInt8}
    (hb : b ∈ String.utf8EncodeChar c) : 128 ≤ b.toNat := by
  have hvalue : ¬ c.val.toNat ≤ 127 := Nat.not_le.2 h
  unfold String.utf8EncodeChar at hb
  simp only [hvalue, if_false] at hb
  split at hb
  · simp only [List.mem_cons, List.not_mem_nil, or_false] at hb
    rcases hb with rfl | rfl <;> rw [UInt8.toNat_ofNat'] <;> omega
  · split at hb
    · simp only [List.mem_cons, List.not_mem_nil, or_false] at hb
      rcases hb with rfl | rfl | rfl <;> rw [UInt8.toNat_ofNat'] <;> omega
    · simp only [List.mem_cons, List.not_mem_nil, or_false] at hb
      rcases hb with rfl | rfl | rfl | rfl <;> rw [UInt8.toNat_ofNat'] <;> omega

theorem encode_ascii {s : String} (h : ∀ c ∈ s.toList, c.toNat < 128) :
    encode s = s.toList.map fun c => UInt8.ofNat c.toNat := by
  have hchars := List.map_congr_left fun c hc => utf8EncodeChar_ascii (h c hc)
  rw [encode, List.flatMap_def, hchars, ← List.flatMap_def, List.map_eq_flatMap]

end Utf8

namespace Http

/-- An ASCII text is what its bytes spell. -/
theorem asciiText_encode {s : String} (h : ∀ c ∈ s.toList, c.toNat < 128) :
    asciiText (Utf8.encode s) = s := by
  have hchar : ∀ c ∈ s.toList, Char.ofNat (UInt8.ofNat c.toNat).toNat = c := by
    intro c hc
    have hsmall : c.toNat % 2 ^ 8 = c.toNat := Nat.mod_eq_of_lt (Nat.lt_trans (h c hc) (by decide))
    rw [UInt8.toNat_ofNat', hsmall, Char.ofNat_toNat]
  rw [asciiText, Utf8.encode_ascii h, List.map_map]
  have hsame := List.map_congr_left hchar
  rw [List.map_id'] at hsame
  show String.ofList (s.toList.map fun c => Char.ofNat (UInt8.ofNat c.toNat).toNat) = s
  rw [hsame, String.ofList_toList]

/-! ### Values -/

/-- Printable ASCII or a tab. -/
def IsReadableChar (c : Char) : Prop := c = '\t' ∨ (32 ≤ c.toNat ∧ c.toNat ≤ 126)

/-- No control but the tab. -/
def IsValueChar (c : Char) : Prop := c = '\t' ∨ (32 ≤ c.toNat ∧ c.toNat ≠ 127)

instance : DecidablePred IsReadableChar := fun c => by
  unfold IsReadableChar
  infer_instance

instance : DecidablePred IsValueChar := fun c => by
  unfold IsValueChar
  infer_instance

theorem IsReadableChar.toNat_lt {c : Char} (h : IsReadableChar c) : c.toNat < 128 := by
  rcases h with rfl | ⟨-, h⟩
  · decide
  · omega

theorem IsReadableChar.legal {c : Char} (h : IsReadableChar c) :
    ((32 ≤ UInt8.ofNat c.toNat && UInt8.ofNat c.toNat < 127) ||
      UInt8.ofNat c.toNat == 9) = true := by
  obtain ⟨k, rfl⟩ := Ascii.exists_fin h.toNat_lt
  revert k
  decide +kernel

/-- A value of printable ASCII and tabs reads as the text that was written. -/
theorem readable?_encode {s : String} (h : ∀ c ∈ s.toList, IsReadableChar c) :
    readable? (Utf8.encode s) = some s := by
  have hascii : ∀ c ∈ s.toList, c.toNat < 128 := fun c hc => (h c hc).toNat_lt
  have hbytes : (Utf8.encode s).all (fun b => (32 ≤ b && b < 127) || b == 9) = true := by
    rw [Utf8.encode_ascii hascii, List.all_map, List.all_eq_true]
    exact fun c hc => (h c hc).legal
  rw [readable?, if_pos hbytes, asciiText_encode hascii]

theorem all_isFieldByte_iff (c : Char) :
    (String.utf8EncodeChar c).all isFieldByte = true ↔ IsValueChar c := by
  by_cases hascii : c.toNat < 128
  · rw [Utf8.utf8EncodeChar_ascii hascii, List.all_cons, List.all_nil, Bool.and_true]
    obtain ⟨k, rfl⟩ := Ascii.exists_fin hascii
    clear hascii
    revert k
    decide +kernel
  · -- Outside ASCII every byte is legal, and so is the character.
    have hlarge : 128 ≤ c.toNat := Nat.not_lt.1 hascii
    refine iff_of_true (List.all_eq_true.2 fun b hb => ?_) (Or.inr ⟨by omega, by omega⟩)
    have hb := Utf8.le_of_mem_utf8EncodeChar hlarge hb
    have hlow : (32 : UInt8) ≤ b := UInt8.le_iff_toNat_le.2 (Nat.le_trans (by decide) hb)
    have hne : b ≠ 127 := by
      rintro rfl
      exact absurd hb (by decide)
    simp [isFieldByte, hlow, hne]

/-- A text that is a field value. -/
def IsFieldText (s : String) : Prop := ∀ c ∈ s.toList, IsValueChar c

/-- The texts that are field values are those whose bytes are. -/
theorem isFieldValue_encode_iff (s : String) :
    isFieldValue (Utf8.encode s) = true ↔ IsFieldText s := by
  rw [isFieldValue, Utf8.encode, List.all_flatMap, List.all_eq_true]
  exact forall₂_congr fun c _ => all_isFieldByte_iff c

instance (s : String) : Decidable (IsFieldText s) :=
  decidable_of_iff _ (isFieldValue_encode_iff s)

/-! ### Names -/

/-- A letter, a digit, or one of the marks that tokens may have. -/
def IsNameChar (c : Char) : Prop :=
  c.isAlphanum = true ∨ c ∈ "!#$%&'*+-.^_`|~".toList

instance : DecidablePred IsNameChar := fun c => by
  unfold IsNameChar
  infer_instance

/-- A text that is a field name. -/
structure IsFieldName (s : String) : Prop where
  /-- It is not empty. -/
  ne_empty : s ≠ ""
  /-- It consists of characters of names. -/
  chars : ∀ c ∈ s.toList, IsNameChar c
  /-- It is not too long. -/
  length_le : s.length ≤ fieldNameLimit

theorem IsNameChar.toNat_lt {c : Char} (h : IsNameChar c) : c.toNat < 128 := by
  rcases h with halnum | hmark
  · have hle : c.val ≤ 122 := by
      rcases Bool.or_eq_true_iff.1 halnum with halpha | hdigit
      · rcases Bool.or_eq_true_iff.1 halpha with hupper | hlower
        · have hZ : c.val ≤ 90 := (of_decide_eq_true hupper).2
          exact UInt32.le_trans hZ (by decide)
        · exact of_decide_eq_true (Bool.and_eq_true_iff.1 hlower).2
      · have hnine : c.val ≤ 57 := of_decide_eq_true (Bool.and_eq_true_iff.1 hdigit).2
        exact UInt32.le_trans hnine (by decide)
    exact Nat.lt_of_le_of_lt (UInt32.le_iff_toNat_le.1 hle) (by decide)
  · have hall : ∀ d ∈ "!#$%&'*+-.^_`|~".toList, d.toNat < 128 := by simp
    exact hall c hmark

theorem all_isTokenByte_iff (c : Char) :
    (String.utf8EncodeChar c).all isTokenByte = true ↔ IsNameChar c := by
  by_cases hascii : c.toNat < 128
  · rw [Utf8.utf8EncodeChar_ascii hascii, List.all_cons, List.all_nil, Bool.and_true]
    obtain ⟨k, rfl⟩ := Ascii.exists_fin hascii
    clear hascii
    revert k
    decide +kernel
  · -- Outside ASCII no byte belongs to a token.
    refine iff_of_false (fun hall => ?_) fun h => hascii h.toNat_lt
    obtain ⟨b, hb⟩ := List.exists_mem_of_ne_nil _ (String.utf8EncodeChar_ne_nil (c := c))
    have hlarge := Utf8.le_of_mem_utf8EncodeChar (Nat.not_lt.1 hascii) hb
    have hnone : ∀ k : Fin 256, 128 ≤ k.val → isTokenByte (UInt8.ofNat k) = false := by
      decide +kernel
    have htoken := hnone ⟨b.toNat, b.toNat_lt⟩ hlarge
    rw [UInt8.ofNat_toNat, List.all_eq_true.1 hall b hb] at htoken
    cases htoken

theorem encode_eq_nil_iff {s : String} : Utf8.encode s = [] ↔ s = "" := by
  rw [Utf8.encode, List.flatMap_eq_nil_iff]
  constructor
  · intro h
    have hnone : s.toList = [] :=
      List.eq_nil_iff_forall_not_mem.2 fun c hc => String.utf8EncodeChar_ne_nil (h c hc)
    exact String.toList_eq_nil_iff.1 hnone
  · rintro rfl c hc
    cases hc

theorem isToken_encode_iff (s : String) :
    isToken (Utf8.encode s) = true ↔ s ≠ "" ∧ ∀ c ∈ s.toList, IsNameChar c := by
  rw [isToken, Bool.and_eq_true, Bool.not_eq_true', List.isEmpty_eq_false_iff, Ne,
    encode_eq_nil_iff, Utf8.encode, List.all_flatMap, List.all_eq_true]
  exact and_congr_right fun _ => forall₂_congr fun c _ => all_isTokenByte_iff c

/-- Lower case is the same for characters and for their bytes. -/
theorem asciiText_lower {s : String} (h : ∀ c ∈ s.toList, c.toNat < 128) :
    asciiText ((Utf8.encode s).map Bytes.lower) = Ascii.lowerText s := by
  have hchar : ∀ c ∈ s.toList,
      Char.ofNat (Bytes.lower (UInt8.ofNat c.toNat)).toNat = Ascii.lower c := by
    intro c hc
    obtain ⟨k, rfl⟩ := Ascii.exists_fin (h c hc)
    clear hc
    revert k
    decide +kernel
  rw [asciiText, Utf8.encode_ascii h, List.map_map, List.map_map, Ascii.lowerText]
  exact congrArg String.ofList (List.map_congr_left hchar)

/-- The texts that are field names, and their lowercase form. -/
theorem fieldNameOfText?_eq_some_iff {s name : String} :
    fieldNameOfText? s = some name ↔ IsFieldName s ∧ name = Ascii.lowerText s := by
  have hlength (h : ∀ c ∈ s.toList, IsNameChar c) : (Utf8.encode s).length = s.length := by
    rw [Utf8.encode_ascii fun c hc => (h c hc).toNat_lt, List.length_map, String.length_toList]
  have hlegal : (isToken (Utf8.encode s) && (Utf8.encode s).length ≤ fieldNameLimit) = true ↔
      IsFieldName s := by
    rw [Bool.and_eq_true, isToken_encode_iff, decide_eq_true_eq]
    constructor
    · rintro ⟨⟨hne, hchars⟩, hshort⟩
      exact ⟨hne, hchars, hlength hchars ▸ hshort⟩
    · rintro ⟨hne, hchars, hshort⟩
      exact ⟨⟨hne, hchars⟩, (hlength hchars).symm ▸ hshort⟩
  rw [fieldNameOfText?, fieldName?]
  constructor
  · intro h
    split at h
    · rename_i hname
      have hname := hlegal.1 hname
      have hlower := asciiText_lower fun c hc => (hname.chars c hc).toNat_lt
      exact ⟨hname, (Option.some.inj h).symm.trans hlower⟩
    · cases h
  · rintro ⟨hname, rfl⟩
    rw [if_pos (hlegal.2 hname), asciiText_lower fun c hc => (hname.chars c hc).toNat_lt]

end Http

end CloudStub
