import CloudStub.Text.Utf8
import Mathlib.Tactic.Common

/-!
# Reading UTF-8 back

Every character is read from its own bytes, whatever follows them, so a text is read from its
bytes.  The ranges that the reader sets for the second byte of a character exclude none of the
bytes that characters are written with: an overlong form or a surrogate would be needed for that.

## Main Definitions

- `Utf8.IsTail`: the bytes that may continue a character

## Main Statements

- `Utf8.pieces_utf8EncodeChar`: a character is read from its bytes
- `Utf8.decode?_encode`, `Utf8.encode_inj`: a text is read from its bytes and determined by them
- `Utf8.isSome_decode?_append`: ASCII in front of other bytes does not decide whether they are text
-/

namespace CloudStub.Utf8

/-! ## Sequences of two, three and four bytes -/

/-- The bytes that may continue a character. -/
def IsTail (b : UInt8) : Prop := 0x80 ≤ b ∧ b ≤ 0xBF

/-- The byte that completes a character. -/
theorem run_last {bits : Nat} {lo hi b : UInt8} (hlo : lo ≤ b) (hhi : b ≤ hi) (rest : Bytes) :
    run (.inside 1 bits lo hi) (b :: rest) =
      some (Char.ofNat (bits * 64 + (b.toNat - 0x80))) :: run .start rest := by
  simp [run, State.step, hlo, hhi]

/-- A byte inside a character behind which more are due. -/
theorem run_continue {due bits : Nat} {lo hi b : UInt8} (hlo : lo ≤ b) (hhi : b ≤ hi)
    (rest : Bytes) :
    run (.inside (due + 2) bits lo hi) (b :: rest) =
      run (.inside (due + 1) (bits * 64 + (b.toNat - 0x80)) 0x80 0xBF) rest := by
  simp [run, State.step, hlo, hhi]

theorem run_begin {b : UInt8} {s : State} (h : State.begin b = ([], s)) (rest : Bytes) :
    run .start (b :: rest) = run s rest := by
  simp [run, State.step, h]

/-- A byte that begins a sequence is neither ASCII nor stray. -/
theorem begin_lead {a : UInt8} (h : 0xC2 ≤ a.toNat) : ¬ a < 0x80 ∧ ¬ a < 0xC2 := by
  rw [UInt8.not_lt, UInt8.not_lt, UInt8.le_iff_toNat_le, UInt8.le_iff_toNat_le]
  exact ⟨Nat.le_trans (by decide) h, h⟩

theorem run_two {a b : UInt8} (hlo : 0xC2 ≤ a.toNat) (hhi : a.toNat < 0xE0) (hb : IsTail b)
    (rest : Bytes) :
    run .start (a :: b :: rest) =
      some (Char.ofNat ((a.toNat - 0xC0) * 64 + (b.toNat - 0x80))) :: run .start rest := by
  obtain ⟨hascii, hstray⟩ := begin_lead hlo
  have htwo : a < 0xE0 := UInt8.lt_iff_toNat_lt.2 hhi
  have hbegin : State.begin a = ([], .inside 1 (a.toNat - 0xC0) 0x80 0xBF) := by
    simp [State.begin, hascii, hstray, htwo]
  rw [run_begin hbegin, run_last hb.1 hb.2]

/-- The byte that begins a sequence of three bytes, and the byte behind it: the smallest first byte
excludes overlong forms, and another one surrogates. -/
theorem begin_three {a b : UInt8} (hlo : 0xE0 ≤ a.toNat) (hhi : a.toNat < 0xF0) (hb : IsTail b)
    (hoverlong : a.toNat = 0xE0 → 0xA0 ≤ b.toNat) (hsurrogate : a.toNat = 0xED → b.toNat ≤ 0x9F) :
    ∃ lo hi, State.begin a = ([], .inside 2 (a.toNat - 0xE0) lo hi) ∧ lo ≤ b ∧ b ≤ hi := by
  obtain ⟨hascii, hstray⟩ := begin_lead (a := a) (by omega)
  have htwo : ¬ a < 0xE0 := UInt8.not_lt.2 (UInt8.le_iff_toNat_le.2 hlo)
  have hthree : a < 0xF0 := UInt8.lt_iff_toNat_lt.2 hhi
  simp only [IsTail, UInt8.le_iff_toNat_le] at hb ⊢
  by_cases hfirst : a = 0xE0
  · subst hfirst
    exact ⟨0xA0, 0xBF, rfl, hoverlong rfl, hb.2⟩
  by_cases hmiddle : a = 0xED
  · subst hmiddle
    exact ⟨0x80, 0x9F, rfl, hb.1, hsurrogate rfl⟩
  · exact ⟨0x80, 0xBF, by simp [State.begin, hascii, hstray, htwo, hthree, hfirst, hmiddle],
      hb.1, hb.2⟩

theorem run_three {a b c : UInt8} (hlo : 0xE0 ≤ a.toNat) (hhi : a.toNat < 0xF0) (hb : IsTail b)
    (hoverlong : a.toNat = 0xE0 → 0xA0 ≤ b.toNat) (hsurrogate : a.toNat = 0xED → b.toNat ≤ 0x9F)
    (hc : IsTail c) (rest : Bytes) :
    run .start (a :: b :: c :: rest) =
      some (Char.ofNat (((a.toNat - 0xE0) * 64 + (b.toNat - 0x80)) * 64 + (c.toNat - 0x80))) ::
        run .start rest := by
  obtain ⟨lo, hi, hbegin, hblo, hbhi⟩ := begin_three hlo hhi hb hoverlong hsurrogate
  rw [run_begin hbegin, run_continue hblo hbhi, run_last hc.1 hc.2]

/-- The byte that begins a sequence of four bytes, and the byte behind it: the smallest first byte
excludes overlong forms, and the largest one numbers past the last character. -/
theorem begin_four {a b : UInt8} (hlo : 0xF0 ≤ a.toNat) (hhi : a.toNat ≤ 0xF4) (hb : IsTail b)
    (hoverlong : a.toNat = 0xF0 → 0x90 ≤ b.toNat) (hlast : a.toNat = 0xF4 → b.toNat ≤ 0x8F) :
    ∃ lo hi, State.begin a = ([], .inside 3 (a.toNat - 0xF0) lo hi) ∧ lo ≤ b ∧ b ≤ hi := by
  obtain ⟨hascii, hstray⟩ := begin_lead (a := a) (by omega)
  have hthree : ¬ a < 0xF0 := UInt8.not_lt.2 (UInt8.le_iff_toNat_le.2 hlo)
  have htwo : ¬ a < 0xE0 := fun h => hthree (UInt8.lt_trans h (by decide))
  have hneFirst : a ≠ 0xE0 := fun h => by simp [h] at hlo
  have hneMiddle : a ≠ 0xED := fun h => by simp [h] at hlo
  simp only [IsTail, UInt8.le_iff_toNat_le] at hb ⊢
  by_cases hfirst : a = 0xF0
  · subst hfirst
    exact ⟨0x90, 0xBF, rfl, hoverlong rfl, hb.2⟩
  by_cases hmost : a = 0xF4
  · subst hmost
    exact ⟨0x80, 0x8F, rfl, hb.1, hlast rfl⟩
  · have hne : a.toNat ≠ 0xF4 := fun h => hmost (UInt8.toNat_inj.1 h)
    have hfour : a < 0xF4 := UInt8.lt_iff_toNat_lt.2 (Nat.lt_of_le_of_ne hhi hne)
    exact ⟨0x80, 0xBF,
      by simp [State.begin, hascii, hstray, htwo, hthree, hneFirst, hneMiddle, hfirst, hfour],
      hb.1, hb.2⟩

theorem run_four {a b c d : UInt8} (hlo : 0xF0 ≤ a.toNat) (hhi : a.toNat ≤ 0xF4) (hb : IsTail b)
    (hoverlong : a.toNat = 0xF0 → 0x90 ≤ b.toNat) (hlast : a.toNat = 0xF4 → b.toNat ≤ 0x8F)
    (hc : IsTail c) (hd : IsTail d) (rest : Bytes) :
    run .start (a :: b :: c :: d :: rest) =
      some (Char.ofNat ((((a.toNat - 0xF0) * 64 + (b.toNat - 0x80)) * 64 + (c.toNat - 0x80)) * 64 +
        (d.toNat - 0x80))) :: run .start rest := by
  obtain ⟨lo, hi, hbegin, hblo, hbhi⟩ := begin_four hlo hhi hb hoverlong hlast
  rw [run_begin hbegin, run_continue hblo hbhi, run_continue hc.1 hc.2, run_last hd.1 hd.2]

/-! ## Characters and texts -/

/-- The number of a character, which is no surrogate. -/
theorem toNat_cases (c : Char) :
    c.val.toNat < 0xD800 ∨ 0xDFFF < c.val.toNat ∧ c.val.toNat < 0x110000 := c.valid

theorem toNat_byte {n : Nat} (h : n < 256) : (UInt8.ofNat n).toNat = n :=
  UInt8.toNat_ofNat_of_lt' h

theorem isTail_ofNat (n : Nat) : IsTail (UInt8.ofNat (n % 64 + 128)) := by
  have h := toNat_byte (n := n % 64 + 128) (by omega)
  constructor
  · rw [UInt8.le_iff_toNat_le, h]
    exact Nat.le_add_left 128 _
  · have hmost : (0xBF : UInt8).toNat = 0xBF := rfl
    rw [UInt8.le_iff_toNat_le, h, hmost]
    omega

/-- A character is read from its bytes, whatever follows them. -/
theorem pieces_utf8EncodeChar (c : Char) (bs : Bytes) :
    pieces (String.utf8EncodeChar c ++ bs) = some c :: pieces bs := by
  have hvalid := toNat_cases c
  have hchar : Char.ofNat c.val.toNat = c := Char.ofNat_toNat c
  unfold String.utf8EncodeChar
  simp only
  generalize c.val.toNat = v at hvalid hchar ⊢
  have hlast := toNat_byte (n := v % 64 + 128) (by omega)
  have hthird := toNat_byte (n := v / 64 % 64 + 128) (by omega)
  have hfourth := toNat_byte (n := v / 4096 % 64 + 128) (by omega)
  -- In each case the digits of the number to base 64 add up to the number.
  split
  · have hlead := toNat_byte (n := v) (by omega)
    have hbound : v < 0x80 := by omega
    have hascii : UInt8.ofNat v < 0x80 := UInt8.lt_iff_toNat_lt.2 (by rwa [hlead])
    rw [List.cons_append, List.nil_append, pieces_ascii_cons hascii, hlead, hchar]
  split
  · have hlead := toNat_byte (n := v / 64 % 32 + 192) (by omega)
    simp only [List.cons_append, List.nil_append, pieces]
    rw [run_two (by omega) (by omega) (isTail_ofNat v), hlead, hlast]
    rw [show (v / 64 % 32 + 192 - 0xC0) * 64 + (v % 64 + 128 - 0x80) = v by omega, hchar]
  split
  · have hlead := toNat_byte (n := v / 4096 % 16 + 224) (by omega)
    simp only [List.cons_append, List.nil_append, pieces]
    rw [run_three (by omega) (by omega) (isTail_ofNat (v / 64)) (by omega) (by omega)
      (isTail_ofNat v), hlead, hthird, hlast]
    rw [show ((v / 4096 % 16 + 224 - 0xE0) * 64 + (v / 64 % 64 + 128 - 0x80)) * 64 +
      (v % 64 + 128 - 0x80) = v by omega, hchar]
  · have hlead := toNat_byte (n := v / 262144 % 8 + 240) (by omega)
    simp only [List.cons_append, List.nil_append, pieces]
    rw [run_four (by omega) (by omega) (isTail_ofNat (v / 4096)) (by omega) (by omega)
      (isTail_ofNat (v / 64)) (isTail_ofNat v), hlead, hfourth, hthird, hlast]
    rw [show (((v / 262144 % 8 + 240 - 0xF0) * 64 + (v / 4096 % 64 + 128 - 0x80)) * 64 +
      (v / 64 % 64 + 128 - 0x80)) * 64 + (v % 64 + 128 - 0x80) = v by omega, hchar]

theorem pieces_encode (text : String) : pieces (encode text) = text.toList.map some := by
  unfold encode
  induction text.toList with
  | nil => rfl
  | cons c rest ih => rw [List.flatMap_cons, pieces_utf8EncodeChar, ih, List.map_cons]

/-- A text is read from its bytes. -/
theorem decode?_encode (text : String) : decode? (encode text) = some text := by
  have hall : (text.toList.map some).mapM id = some text.toList := by
    induction text.toList with
    | nil => rfl
    | cons c rest ih => simp [List.mapM_cons, ih]
  simp [decode?, pieces_encode, hall]

/-- Texts are determined by their bytes. -/
theorem encode_inj {a b : String} : encode a = encode b ↔ a = b := by
  constructor
  · intro h
    have hread := congrArg decode? h
    rwa [decode?_encode, decode?_encode, Option.some.injEq] at hread
  · rintro rfl
    rfl

/-! ## ASCII in front -/

theorem isSome_decode?_cons {b : UInt8} (h : b < 0x80) (bs : Bytes) :
    (decode? (b :: bs)).isSome = (decode? bs).isSome := by
  simp only [decode?, pieces_ascii_cons h, List.mapM_cons, id_eq]
  cases (pieces bs).mapM id <;> rfl

/-- ASCII in front of other bytes does not decide whether they are text. -/
theorem isSome_decode?_append {front : Bytes} (h : ∀ b ∈ front, b < 0x80) (bs : Bytes) :
    (decode? (front ++ bs)).isSome = (decode? bs).isSome := by
  induction front with
  | nil => rfl
  | cons b rest ih =>
    obtain ⟨hb, hrest⟩ := List.forall_mem_cons.1 h
    rw [List.cons_append, isSome_decode?_cons hb, ih hrest]

end CloudStub.Utf8
