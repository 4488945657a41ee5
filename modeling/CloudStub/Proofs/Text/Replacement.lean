import CloudStub.Text.Cut
import Mathlib.Tactic.ByContra

/-!
# Replacing a piece of text

What `Cut.replaceFrom` does to a text that is put together from parts.  A character that the piece
does not contain separates the text on its left from the text on its right; an occurrence at the
front is replaced; and a text that comes out unchanged either has no occurrence or was asked to put
the piece in its own place.

## Main Statements

- `infix_append_cons_iff`: an occurrence lies on one side of a foreign character
- `replaceFrom_append_cons`: so does its replacement
- `replaceFrom_piece_append`: an occurrence at the front
- `replaceFrom_eq_self_iff`: which texts come out unchanged
-/

namespace CloudStub.Cut

variable {piece new : List Char}

/-- An occurrence of a piece lies on one side of a character that the piece does not contain. -/
theorem infix_append_cons_iff {c : Char} (hc : c ∉ piece) (l r : List Char) :
    piece <:+: l ++ c :: r ↔ piece <:+: l ∨ piece <:+: r := by
  constructor
  · intro h
    -- The occurrence lies on the left, on the right, or across the boundary.
    rcases List.infix_append_iff.1 h with h | h | ⟨front, back, rfl, hfront, hback⟩
    · exact Or.inl h
    · rcases List.infix_cons_iff.1 h with h | h
      · cases piece with
        | nil => exact Or.inl (List.nil_infix)
        | cons a rest =>
          obtain ⟨rfl, -⟩ := List.cons_prefix_cons.1 h
          exact absurd (List.mem_cons_self ..) hc
      · exact Or.inr h
    · cases back with
      | nil => exact Or.inl (by simpa using hfront.isInfix)
      | cons a rest =>
        obtain ⟨rfl, -⟩ := List.cons_prefix_cons.1 hback
        exact absurd (by simp) hc
  · rintro (h | h)
    · exact List.infix_append_of_infix_left h
    · exact List.infix_append_of_infix_right (List.infix_cons h)

theorem prefix_append_cons_iff {c : Char} (hc : c ∉ piece) (l r : List Char) :
    piece <+: l ++ c :: r ↔ piece <+: l := by
  constructor
  · intro h
    have hl : l ++ [c] <+: l ++ c :: r := ⟨r, by simp⟩
    rcases List.prefix_or_prefix_of_prefix h hl with h | h
    · rcases List.prefix_concat_iff.1 h with rfl | h
      · exact absurd (by simp) hc
      · exact h
    · exact absurd (h.subset (by simp)) hc
  · exact fun h => h.trans (List.prefix_append ..)

/-! ## Replacement in parts -/

theorem replaceFrom_eq_drop (skip : Nat) (l : List Char) :
    replaceFrom piece new skip l = replaceFrom piece new 0 (l.drop skip) := by
  induction l generalizing skip with
  | nil => cases skip <;> simp [replaceFrom]
  | cons c rest ih =>
    cases skip with
    | zero => rfl
    | succ skip => rw [replaceFrom, ih, List.drop_succ_cons]

/-- Replacement goes on separately on both sides of a character that the piece does not contain. -/
theorem replaceFrom_append_cons {c : Char} (hne : piece ≠ []) (hc : c ∉ piece) (l r : List Char)
    {skip : Nat} (hskip : skip ≤ l.length) :
    replaceFrom piece new skip (l ++ c :: r) =
      replaceFrom piece new skip l ++ c :: replaceFrom piece new 0 r := by
  induction l generalizing skip with
  | nil =>
    obtain rfl : skip = 0 := by simpa using hskip
    have hfront : ¬ piece <+: c :: r := by
      simpa [hne] using prefix_append_cons_iff hc [] r
    simp [replaceFrom, hfront]
  | cons a rest ih =>
    rw [List.length_cons] at hskip
    cases skip with
    | succ skip => exact ih (by omega)
    | zero =>
      -- Whether the piece begins here is decided on the left alone.
      have hfront := prefix_append_cons_iff hc (a :: rest) r
      rw [List.cons_append] at hfront
      rw [List.cons_append, replaceFrom, replaceFrom]
      simp only [List.isPrefixOf_iff_prefix, hfront]
      split
      · rename_i h
        have hlen : piece.length ≤ rest.length + 1 := h.length_le
        rw [ih (by omega), List.append_assoc]
      · rw [ih (by omega), List.cons_append]

/-- An occurrence at the front is replaced. -/
theorem replaceFrom_piece_append (hne : piece ≠ []) (rest : List Char) :
    replaceFrom piece new 0 (piece ++ rest) = new ++ replaceFrom piece new 0 rest := by
  cases piece with
  | nil => exact absurd rfl hne
  | cons a tail =>
    have hfront : a :: tail <+: a :: (tail ++ rest) := ⟨rest, rfl⟩
    rw [List.cons_append, replaceFrom, if_pos (List.isPrefixOf_iff_prefix.2 hfront),
      replaceFrom_eq_drop]
    simp

/-- A text without the first character of the piece is kept. -/
theorem replaceFrom_append_of_notMem {a : Char} {tail : List Char} {l : List Char} (h : a ∉ l)
    (r : List Char) :
    replaceFrom (a :: tail) new 0 (l ++ r) = l ++ replaceFrom (a :: tail) new 0 r := by
  induction l with
  | nil => rfl
  | cons c rest ih =>
    have hfront : ¬ a :: tail <+: c :: (rest ++ r) := by
      rw [List.cons_prefix_cons]
      rintro ⟨rfl, -⟩
      exact h (List.mem_cons_self ..)
    rw [List.cons_append, replaceFrom, if_neg (by simpa using hfront),
      ih fun hc => h (List.mem_cons_of_mem _ hc), List.cons_append]

/-! ## Texts that come out unchanged -/

theorem replaceFrom_of_not_infix {l : List Char} (h : ¬ piece <:+: l) :
    replaceFrom piece new 0 l = l := by
  induction l with
  | nil => rfl
  | cons c rest ih =>
    rw [List.infix_cons_iff, not_or] at h
    rw [replaceFrom, if_neg (by simpa using h.1), ih h.2]

/-- The first occurrence of a piece, which is replaced. -/
theorem exists_replaceFrom_eq (hne : piece ≠ []) (new : List Char) {l : List Char}
    (h : piece <:+: l) :
    ∃ before behind, l = before ++ (piece ++ behind) ∧
      replaceFrom piece new 0 l = before ++ (new ++ replaceFrom piece new 0 behind) := by
  induction l with
  | nil => exact absurd (List.infix_nil.1 h) hne
  | cons c rest ih =>
    by_cases hfront : piece <+: c :: rest
    · obtain ⟨behind, hbehind⟩ := hfront
      exact ⟨[], behind, hbehind.symm, by rw [← hbehind, replaceFrom_piece_append hne]; rfl⟩
    · obtain ⟨before, behind, hl, hr⟩ := ih ((List.infix_cons_iff.1 h).resolve_left hfront)
      refine ⟨c :: before, behind, by rw [hl]; rfl, ?_⟩
      rw [replaceFrom, if_neg (by simpa using hfront), hr, List.cons_append]

theorem length_replaceFrom_le (h : new.length ≤ piece.length) (skip : Nat) (l : List Char) :
    (replaceFrom piece new skip l).length ≤ l.length - skip := by
  induction l generalizing skip with
  | nil => cases skip <;> simp [replaceFrom]
  | cons c rest ih =>
    cases skip with
    | succ skip => simpa [replaceFrom] using ih skip
    | zero =>
      rw [replaceFrom]
      split
      · rename_i hfront
        have hlen := (List.isPrefixOf_iff_prefix.1 hfront).length_le
        have hrest := ih (piece.length - 1)
        simp only [List.length_append, List.length_cons] at hlen hrest ⊢
        omega
      · have hrest := ih 0
        simp only [List.length_cons]
        omega

theorem le_length_replaceFrom (hne : piece ≠ []) (h : piece.length ≤ new.length) (skip : Nat)
    (l : List Char) : l.length - skip ≤ (replaceFrom piece new skip l).length := by
  have hpos := List.length_pos_iff.2 hne
  induction l generalizing skip with
  | nil => simp
  | cons c rest ih =>
    cases skip with
    | succ skip => simpa [replaceFrom] using ih skip
    | zero =>
      rw [replaceFrom]
      split
      · have hrest := ih (piece.length - 1)
        simp only [List.length_append, List.length_cons] at hrest ⊢
        omega
      · have hrest := ih 0
        simp only [List.length_cons] at hrest ⊢
        omega

theorem replaceFrom_self (hne : piece ≠ []) (l : List Char) : replaceFrom piece piece 0 l = l := by
  by_cases hocc : piece <:+: l
  · -- Behind the first occurrence the text is shorter.
    obtain ⟨before, behind, hl, hr⟩ := exists_replaceFrom_eq hne piece hocc
    have hshort : behind.length < l.length := by
      have hpos := List.length_pos_iff.2 hne
      simp only [hl, List.length_append]
      omega
    rw [hr, replaceFrom_self hne behind, ← hl]
  · exact replaceFrom_of_not_infix hocc
termination_by l.length

/-- A text comes out unchanged exactly when the piece does not occur in it or is put in its own
place.  With another replacement the first occurrence makes a difference: either in the number of
characters, or right where it stands. -/
theorem replaceFrom_eq_self_iff (hne : piece ≠ []) (l : List Char) :
    replaceFrom piece new 0 l = l ↔ new = piece ∨ ¬ piece <:+: l := by
  constructor
  · intro hself
    by_contra hcon
    obtain ⟨hnew, hocc⟩ := not_or.1 hcon
    obtain ⟨before, behind, hl, hr⟩ := exists_replaceFrom_eq hne new (not_not.1 hocc)
    -- In front of the first occurrence both texts agree, so they agree from there on.
    have hcut : new ++ replaceFrom piece new 0 behind = piece ++ behind :=
      List.append_cancel_left (hr.symm.trans (hself.trans hl))
    have hlen := congrArg List.length hcut
    simp only [List.length_append] at hlen
    rcases Nat.lt_trichotomy new.length piece.length with hlt | heq | hgt
    · have := length_replaceFrom_le (Nat.le_of_lt hlt) 0 behind
      omega
    · exact hnew (List.append_inj_left hcut heq)
    · have := le_length_replaceFrom hne (Nat.le_of_lt hgt) 0 behind
      omega
  · rintro (rfl | h)
    · exact replaceFrom_self hne l
    · exact replaceFrom_of_not_infix h

end CloudStub.Cut
