import CloudStub.Text.Base64
import CloudStub.Text.Cut
import CloudStub.Text.Utf8

/-!
# Reading Base64 back

The symbols of a byte sequence are read as that byte sequence, also when they are written as text
with blanks around it.

## Main Statements

- `Base64.groups_encode`: the groups of the symbols of a byte sequence
- `Base64.decode_encode`: the symbols of a byte sequence read back
- `Base64.decode_trimmed`: so does their text with blanks around it
-/

namespace CloudStub

/-! ### Blanks around a text -/

namespace Cut

theorem trimStart_append {front cs : List Char} (hfront : ∀ c ∈ front, Unicode.isBlank c = true)
    (hcs : ∀ c ∈ cs, Unicode.isBlank c = false) (back : List Char) :
    trimStart (front ++ (cs ++ back)) = if cs = [] then trimStart back else cs ++ back := by
  rw [trimStart, List.dropWhile_append_of_pos hfront]
  cases cs with
  | nil => rfl
  | cons c rest =>
    have hc : Unicode.isBlank c = false := hcs c (List.mem_cons_self ..)
    simp [hc]

/-- A text without blanks is what is left when the blanks around it are dropped. -/
theorem trim_append {front cs back : List Char} (hfront : ∀ c ∈ front, Unicode.isBlank c = true)
    (hcs : ∀ c ∈ cs, Unicode.isBlank c = false) (hback : ∀ c ∈ back, Unicode.isBlank c = true) :
    trim (front ++ (cs ++ back)) = cs := by
  have hend : ∀ c ∈ back.reverse, Unicode.isBlank c = true := by simpa using hback
  rw [trim, trimStart_append hfront hcs]
  cases hcs' : cs with
  | nil =>
    have hnone : trimStart back = [] := by
      simpa [trimStart] using @List.dropWhile_append_of_pos _ _ back [] hback
    rw [if_pos rfl, hnone]
    rfl
  | cons c rest =>
    have hplain : ∀ d ∈ cs.reverse, Unicode.isBlank d = false := by simpa using hcs
    -- From the end, the blanks go first and dropping stops at the last character of the text.
    rw [if_neg (by simp), ← hcs', trimEnd, List.reverse_append,
      List.dropWhile_append_of_pos hend]
    cases hr : cs.reverse with
    | nil => simp [hcs'] at hr
    | cons d more =>
      have hd : Unicode.isBlank d = false := hplain d (hr ▸ List.mem_cons_self ..)
      rw [List.dropWhile_cons_of_neg (by simp [hd]), ← hr, List.reverse_reverse]

end Cut

namespace Base64

/-! ### Symbols -/

theorem bits?_symbol {n : Nat} (h : n < 64) : bits? (symbol n) = some n := by
  have hall : ∀ k : Fin 64, bits? (symbol k) = some k.val := by decide
  exact hall ⟨n, h⟩

theorem symbol_ne_pad {n : Nat} (h : n < 64) : (symbol n == pad) = false := by
  have hall : ∀ k : Fin 64, (symbol k == pad) = false := by decide
  exact hall ⟨n, h⟩

theorem symbolBits_symbol {n : Nat} (h : n < 64) (offset : Nat) :
    symbolBits offset (symbol n) = .ok n := by
  rw [symbolBits, bits?_symbol h]

/-- A symbol in front of all padding adds its bits. -/
theorem lastGroup_symbol {n : Nat} (h : n < 64) (offset index : Nat) (bits : List Nat)
    (rest : Bytes) :
    lastGroup offset index none bits (symbol n :: rest) =
      lastGroup offset (index + 1) none (n :: bits) rest := by
  rw [lastGroup, symbol_ne_pad h]
  simp only [symbolBits_symbol h]
  rfl

/-- Six bits at a time, three bytes are what they were. -/
theorem quad_bits (a b c : UInt8) :
    quad (a.toNat / 4) (a.toNat % 4 * 16 + b.toNat / 16) (b.toNat % 16 * 4 + c.toNat / 64)
      (c.toNat % 64) = [a, b, c] := by
  have ha := a.toNat_lt
  have hb := b.toNat_lt
  have hc := c.toNat_lt
  have hfirst : a.toNat / 4 * 4 + (a.toNat % 4 * 16 + b.toNat / 16) / 16 = a.toNat := by omega
  have hsecond : (a.toNat % 4 * 16 + b.toNat / 16) % 16 * 16 +
      (b.toNat % 16 * 4 + c.toNat / 64) / 4 = b.toNat := by omega
  have hthird : (b.toNat % 16 * 4 + c.toNat / 64) % 4 * 64 + c.toNat % 64 = c.toNat := by omega
  rw [quad, hfirst, hsecond, hthird]
  simp

/-! ### Groups -/

/-- The last group, when it is complete. -/
theorem groups_four (offset : Nat) (a b c d : UInt8) :
    groups offset [a, b, c, d] =
      (lastGroup offset 0 none [] [a, b, c, d]).bind fun g =>
        closeGroup offset [a, b, c, d] g.1 g.2 := rfl

/-- A last group without padding. -/
theorem groups_symbols {w x y z : Nat} (hw : w < 64) (hx : x < 64) (hy : y < 64) (hz : z < 64)
    (offset : Nat) :
    groups offset [symbol w, symbol x, symbol y, symbol z] = .ok (quad w x y z) := by
  rw [groups_four, lastGroup_symbol hw, lastGroup_symbol hx, lastGroup_symbol hy,
    lastGroup_symbol hz]
  simp [lastGroup, closeGroup, Except.bind]

theorem groups_one (offset : Nat) (a : UInt8) : groups offset (encode [a]) = .ok [a] := by
  have ha := a.toNat_lt
  have hfirst : a.toNat / 4 < 64 := by omega
  have hsecond : a.toNat % 4 * 16 < 64 := by omega
  have hbyte : a.toNat / 4 * 4 + a.toNat % 4 * 16 / 16 = a.toNat := by omega
  have hunused : a.toNat % 4 * 16 % 16 = 0 := by omega
  rw [encode, groups_four, lastGroup_symbol hfirst, lastGroup_symbol hsecond]
  show closeGroup offset _ [a.toNat / 4, a.toNat % 4 * 16] 2 = .ok [a]
  unfold closeGroup
  simp only [List.length_cons, List.length_nil, hunused, hbyte, UInt8.ofNat_toNat]
  rfl

theorem groups_two (offset : Nat) (a b : UInt8) :
    groups offset (encode [a, b]) = .ok [a, b] := by
  have ha := a.toNat_lt
  have hb := b.toNat_lt
  have hfirst : a.toNat / 4 < 64 := by omega
  have hsecond : a.toNat % 4 * 16 + b.toNat / 16 < 64 := by omega
  have hthird : b.toNat % 16 * 4 < 64 := by omega
  have hone : a.toNat / 4 * 4 + (a.toNat % 4 * 16 + b.toNat / 16) / 16 = a.toNat := by omega
  have htwo : (a.toNat % 4 * 16 + b.toNat / 16) % 16 * 16 + b.toNat % 16 * 4 / 4 = b.toNat := by
    omega
  have hunused : b.toNat % 16 * 4 % 4 = 0 := by omega
  rw [encode, groups_four, lastGroup_symbol hfirst, lastGroup_symbol hsecond,
    lastGroup_symbol hthird]
  show closeGroup offset _
    [a.toNat / 4, a.toNat % 4 * 16 + b.toNat / 16, b.toNat % 16 * 4] 1 = .ok [a, b]
  unfold closeGroup
  simp only [List.length_cons, List.length_nil, hunused, hone, htwo, UInt8.ofNat_toNat]
  rfl

/-- Three bytes are a group of four symbols, whether more symbols follow or not. -/
theorem groups_three (offset : Nat) (a b c : UInt8) {rest : Bytes}
    (hrest : groups (offset + 4) (encode rest) = .ok rest) :
    groups offset (encode (a :: b :: c :: rest)) = .ok (a :: b :: c :: rest) := by
  have ha := a.toNat_lt
  have hb := b.toNat_lt
  have hfirst : a.toNat / 4 < 64 := by omega
  have hsecond : a.toNat % 4 * 16 + b.toNat / 16 < 64 := by omega
  have hthird : b.toNat % 16 * 4 + c.toNat / 64 < 64 := by
    have hc := c.toNat_lt
    omega
  have hfourth : c.toNat % 64 < 64 := by omega
  rw [encode]
  -- A complete group is the last one, which may hold padding, unless more symbols follow.
  cases hsymbols : encode rest with
  | nil =>
    obtain rfl : rest = [] := by
      rw [hsymbols] at hrest
      exact (Except.ok.inj hrest).symm
    rw [groups_symbols hfirst hsecond hthird hfourth, quad_bits]
  | cons e more =>
    rw [hsymbols] at hrest
    rw [groups, symbolBits_symbol hfirst, symbolBits_symbol hsecond, symbolBits_symbol hthird,
      symbolBits_symbol hfourth, hrest]
    show Except.ok (quad _ _ _ _ ++ rest) = _
    rw [quad_bits]
    rfl

/-- The groups of the symbols of a byte sequence. -/
theorem groups_encode (bs : Bytes) (offset : Nat) : groups offset (encode bs) = .ok bs := by
  induction bs using encode.induct generalizing offset with
  | case1 => rfl
  | case2 a => exact groups_one offset a
  | case3 a b => exact groups_two offset a b
  | case4 a b c rest ih => exact groups_three offset a b c (ih (offset + 4))

theorem length_encode (bs : Bytes) : (encode bs).length % 4 = 0 := by
  induction bs using encode.induct with
  | case1 => rfl
  | case2 | case3 => simp [encode]
  | case4 a b c rest ih => simp [encode, ih, Nat.add_mod]

/-- The symbols of a byte sequence read back. -/
theorem decode_encode (bs : Bytes) : decode (encode bs) = .ok bs := by
  unfold decode
  cases hlast : (encode bs).getLast? with
  | none =>
    have hgroups := groups_encode bs 0
    rw [List.getLast?_eq_none_iff.1 hlast] at hgroups
    exact hgroups
  | some last =>
    have hlength : ((encode bs).length % 4 == 1) = false := by rw [length_encode]; rfl
    rw [hlength]
    exact groups_encode bs 0

/-! ### Symbols as text -/

/-- What is written in Base64 is a symbol or padding. -/
theorem mem_encode {bs : Bytes} {s : UInt8} (h : s ∈ encode bs) :
    s = pad ∨ ∃ n < 64, s = symbol n := by
  induction bs using encode.induct with
  | case1 => cases h
  | case2 a =>
    have ha := a.toNat_lt
    simp only [encode, List.mem_cons, List.not_mem_nil, or_false] at h
    rcases h with rfl | rfl | rfl | rfl
    · exact Or.inr ⟨_, by omega, rfl⟩
    · exact Or.inr ⟨_, by omega, rfl⟩
    · exact Or.inl rfl
    · exact Or.inl rfl
  | case3 a b =>
    have ha := a.toNat_lt
    have hb := b.toNat_lt
    simp only [encode, List.mem_cons, List.not_mem_nil, or_false] at h
    rcases h with rfl | rfl | rfl | rfl
    · exact Or.inr ⟨_, by omega, rfl⟩
    · exact Or.inr ⟨_, by omega, rfl⟩
    · exact Or.inr ⟨_, by omega, rfl⟩
    · exact Or.inl rfl
  | case4 a b c rest ih =>
    have ha := a.toNat_lt
    have hb := b.toNat_lt
    have hc := c.toNat_lt
    simp only [encode, List.mem_cons] at h
    rcases h with rfl | rfl | rfl | rfl | h
    · exact Or.inr ⟨_, by omega, rfl⟩
    · exact Or.inr ⟨_, by omega, rfl⟩
    · exact Or.inr ⟨_, by omega, rfl⟩
    · exact Or.inr ⟨_, by omega, rfl⟩
    · exact ih h

/-- What a symbol is as a character: ASCII, and no blank. -/
theorem char_of_mem_encode {bs : Bytes} {s : UInt8} (h : s ∈ encode bs) :
    String.utf8EncodeChar (Char.ofNat s.toNat) = [s] ∧
      Unicode.isBlank (Char.ofNat s.toNat) = false := by
  rcases mem_encode h with rfl | ⟨n, hn, rfl⟩
  · decide
  · have hall : ∀ k : Fin 64, String.utf8EncodeChar (Char.ofNat (symbol k).toNat) = [symbol k] ∧
        Unicode.isBlank (Char.ofNat (symbol k).toNat) = false := by decide +kernel
    exact hall ⟨n, hn⟩

theorem utf8_encodeText (bs : Bytes) : Utf8.encode (encodeText bs) = encode bs := by
  have hall : ∀ symbols : Bytes, (∀ s ∈ symbols, s ∈ encode bs) →
      (symbols.map fun s => Char.ofNat s.toNat).flatMap String.utf8EncodeChar = symbols := by
    intro symbols
    induction symbols with
    | nil => exact fun _ => rfl
    | cons s rest ih =>
      intro hmem
      obtain ⟨hs, hrest⟩ := List.forall_mem_cons.1 hmem
      rw [List.map_cons, List.flatMap_cons, (char_of_mem_encode hs).1, ih hrest]
      rfl
  rw [Utf8.encode, encodeText, String.toList_ofList]
  exact hall _ fun _ h => h

/-- The text of a byte sequence in Base64, with blanks around it, reads back. -/
theorem decode_trimmed (bs : Bytes) {front back : List Char}
    (hfront : ∀ c ∈ front, Unicode.isBlank c = true)
    (hback : ∀ c ∈ back, Unicode.isBlank c = true) :
    decode (Utf8.encode (String.ofList
      (Cut.trim (front ++ ((encodeText bs).toList ++ back))))) = .ok bs := by
  have hplain : ∀ c ∈ (encodeText bs).toList, Unicode.isBlank c = false := by
    intro c hc
    rw [encodeText, String.toList_ofList] at hc
    obtain ⟨s, hs, rfl⟩ := List.mem_map.1 hc
    exact (char_of_mem_encode hs).2
  rw [Cut.trim_append hfront hplain hback, String.ofList_toList, utf8_encodeText, decode_encode]

end Base64

end CloudStub
